import ArkadeEscrow.Batch.Failures
import ArkadeEscrow.Refresh.Discipline

/-!
# When a refresh registers again

A refresh deletes stale intents and registers again when the error of its first ceremony reads
like a registration that a stale intent has stopped. It looks for that in the text of the
error, and the error is that of the whole ceremony: what the server says after it has accepted
the registration, or why it lets a batch fail, is read in the same way. The error reads so just
when one of the texts does that it repeats (`isStaleIntentError_iff`). Exactly when such a text
is misread (`Misread`) does a refresh register again although its first registration has been
accepted (`registers_again_only_if_refused_iff`).
-/

set_option autoImplicit false

namespace ArkadeEscrow
namespace Refresh

open Interaction Batch Program

variable {L : BatchLib} {B : BitcoinLib} {statusText : Status → String}
variable {info : Info} {refresh : RefreshIntent L} {refreshCosignerKp : Keypair}

/-! ## The requirement -/

/-- The request is a deletion, or the sleep between two. -/
def Ask.Deletes : Ask L → Prop
  | .ceremony request => request.isDelete = true
  | .sleep _ => True

/-- An intent is registered again only if the first registration has been refused. Nothing but
deletions has been sent in between. -/
def OnlyIfRefused (refresh : RefreshIntent L) (j : Journal L) : Prop :=
  ∀ before intent after, j = before ++ .sent (.ceremony (.registerIntent intent)) :: after →
    1 ≤ registers before → ∃ text deletion,
      before = .sent (.ceremony (.registerIntent refresh.intent)) ::
        .answered (.ceremony (.registerIntent refresh.intent)) (.error text) :: deletion ∧
      ∀ request, .sent request ∈ deletion → Ask.Deletes request

/-- The server has accepted the intent. -/
def Accepted (refresh : RefreshIntent L) (j : Journal L) : Prop :=
  ∃ intentId, .answered (.ceremony (.registerIntent refresh.intent)) (.ok intentId) ∈ j

/-- The ceremony has failed after its registration, and with words of the server or of a library
that read like a refusal of it. -/
def Misread (B : BitcoinLib) (refresh : RefreshIntent L) (refreshCosignerKp : Keypair)
    (j : Journal L) (e : Error) : Prop :=
  Accepted refresh j ∧ refresh.deleteIntent ≠ none ∧ ∃ h texts,
    j = h.map (Event.embed (ceremony L)) ∧ Repeats B refreshCosignerKp (received h) h texts e ∧
      ∃ text ∈ texts, strContains text "already registered" = true

theorem onlyIfRefused_of_registers_le {j : Journal L} (one : registers j ≤ 1) :
    OnlyIfRefused refresh j := by
  rintro before intent after rfl registered
  rw [registers_append, registers_cons_register] at one
  omega

/-! ## What the error says -/

theorem strContains_stale_colon {s s' : String} :
    strContains (s ++ ": " ++ s') "already registered" = true ↔
      strContains s "already registered" = true ∨ strContains s' "already registered" = true :=
  strContains_colon_iff (by decide) (by decide)

theorem not_strContains_toLowerHex (bytes : List UInt8) :
    ¬strContains (toLowerHex bytes) "already registered" = true := by
  intro within
  have letter : 'l' ∈ (toLowerHex bytes).toList :=
    (strContains_iff.mp within).subset (by decide)
  obtain ⟨i, same⟩ := exists_digitChar_of_mem_toLowerHex letter
  exact absurd same (by revert i; decide)

theorem not_strContains_of_mem_purposes {purpose : String} (known : purpose ∈ purposes) :
    ¬strContains purpose "already registered" = true := by
  have none : ∀ purpose ∈ purposes, ¬strContains purpose "already registered" = true := by decide
  exact none purpose known

/-- What the ceremony says of itself does not read like a refusal of its registration. -/
theorem not_strContains_of_mem_ownTexts {text : String} (own : text ∈ ownTexts refreshCosignerKp) :
    ¬strContains text "already registered" = true := by
  simp only [ownTexts, List.mem_cons, List.not_mem_nil, or_false] at own
  rcases own with rfl | rfl | rfl | rfl | rfl | rfl | rfl | rfl | rfl | rfl | rfl
  case inr.inr.inr.inl =>
    -- the only one that is not fixed ends with the digits of a key
    show ¬strContains ("own cosigner PK not in batch cosigners" ++ ": " ++ toLowerHex _) _ = true
    rw [strContains_stale_colon, or_iff_right (by decide)]
    exact not_strContains_toLowerHex _
  all_goals decide

theorem strContains_batchFailed {id reason : String} :
    strContains s!"batch failed {id}: {reason}" "already registered" = true ↔
      strContains id "already registered" = true ∨
        strContains reason "already registered" = true := by
  show strContains ("batch failed " ++ id ++ ": " ++ reason) _ = true ↔ _
  rw [strContains_stale_colon, strContains_append_iff]
  · have none : ¬strContains "batch failed " "already registered" = true := by decide
    simp [none]
  · intro l l' split before _
    have apart : ∀ l ∈ "already registered".toList.inits, l <:+ "batch failed ".toList →
        l = [] := by
      decide
    exact .inl (apart l ((List.mem_inits _ _).mpr ⟨l', split.symm⟩) before)

/-- **An error reads like a refusal just when a text does that it repeats.** -/
theorem isStaleIntentError_iff {h : List (Event (Batch.interface L))} {items : List (StreamItem L)}
    {texts : List String} {e : Error} (repeats : Repeats B refreshCosignerKp items h texts e) :
    isStaleIntentError statusText e = true ↔
      ∃ text ∈ texts, strContains text "already registered" = true := by
  have alone {text : String} : (∃ said ∈ [text], strContains said "already registered" = true) ↔
      strContains text "already registered" = true := by simp
  have context {text purpose : String} (known : purpose ∈ purposes) :
      isStaleIntentError statusText ((Error.msg text).context purpose) = true ↔
        strContains text "already registered" = true := by
    show strContains (purpose ++ ": " ++ text) _ = true ↔ _
    rw [strContains_stale_colon, or_iff_right (not_strContains_of_mem_purposes known)]
  have plain (text : String) :
      isStaleIntentError statusText (.msg text) = strContains text "already registered" := rfl
  cases repeats with
  | refused _ _ known => rw [context known, alone]
  | @broken text _ =>
      show strContains ("event stream error" ++ ": " ++ text) _ = true ↔ _
      rw [strContains_stale_colon, or_iff_right (by decide), alone]
  | failed _ =>
      rw [plain, strContains_batchFailed]
      simp
  | library _ known => rw [context known, alone]
  | signature _ => rw [plain, alone]
  | own own => simp [plain, not_strContains_of_mem_ownTexts own]

/-! ## The first ceremony -/

/-- A registration that is refused ends the ceremony. -/
theorem settle_refused (passes : PassesLocalChecks refresh.intoDelegate refreshCosignerKp) :
    ∃ next, (settle B info refresh refreshCosignerKp).run =
        .ask (I := interface L) (.ceremony (.registerIntent refresh.intent)) next ∧
      ∀ text, ∃ e, next (.error text) = .done (.error e) := by
  obtain ⟨own, outpoints, inputs⟩ := passes
  have first : ensure (refreshCosignerKp.publicKey == refresh.intoDelegate.delegateCosignerPk)
      "cosigner keypair does not match delegate_cosigner_pk" = .ok () :=
    ensure_eq_ok_iff.mpr (by simpa using own)
  rw [settle, settleDelegate, first, inputs]
  exact ⟨_, rfl, fun text => ⟨_, rfl⟩⟩

/-- A ceremony that has failed, and whose registration has not been accepted, has sent nothing
else. -/
theorem refused_of_not_accepted {first : Journal L} {e : Error}
    (passes : PassesLocalChecks refresh.intoDelegate refreshCosignerKp)
    (failed : Interaction.Returns (settle B info refresh refreshCosignerKp).run first (.error e))
    (unaccepted : ¬Accepted refresh first) :
    ∃ text, first = [.sent (.ceremony (.registerIntent refresh.intent)),
      .answered (.ceremony (.registerIntent refresh.intent)) (.error text)] := by
  obtain ⟨next, asks, refuses⟩ := @settle_refused L B info _ _ passes
  rw [asks] at failed
  obtain ⟨answer, rest, rfl, later⟩ := failed.of_ask
  cases answer with
  | ok intentId => exact absurd ⟨intentId, by simp⟩ unaccepted
  | error text =>
      obtain ⟨e', returned⟩ := refuses text
      rw [returned] at later
      obtain ⟨rfl, _⟩ := later.of_done
      exact ⟨text, rfl⟩

/-- Only a ceremony that passes its checks can have been accepted, and then its first message
was. -/
theorem cons_of_accepted {first : Journal L} {e : Error}
    (failed : Interaction.Returns (settle B info refresh refreshCosignerKp).run first (.error e))
    (accepted : Accepted refresh first) :
    PassesLocalChecks refresh.intoDelegate refreshCosignerKp ∧ ∃ intentId rest,
      first = .sent (.ceremony (.registerIntent refresh.intent)) ::
        .answered (.ceremony (.registerIntent refresh.intent)) (.ok intentId) :: rest := by
  obtain ⟨intentId, member⟩ := accepted
  by_cases passes : PassesLocalChecks refresh.intoDelegate refreshCosignerKp
  · refine ⟨passes, ?_⟩
    obtain ⟨next, asks, refuses⟩ := @settle_refused L B info _ _ passes
    rw [asks] at failed
    obtain ⟨answer, rest, rfl, later⟩ := failed.of_ask
    cases answer with
    | ok intentId => exact ⟨intentId, rest, rfl⟩
    | error text =>
        obtain ⟨e', returned⟩ := refuses text
        rw [returned] at later
        obtain ⟨rfl, _⟩ := later.of_done
        simp at member
  · obtain ⟨e', ended⟩ := @settle_of_not_passes L B info _ _ passes
    rw [ended] at failed
    obtain ⟨rfl, _⟩ := failed.of_done
    cases member

/-- **A ceremony is misread just when its error is read so.** -/
theorem misread_iff {first : Journal L} {e : Error}
    (failed : Interaction.Returns (settle B info refresh refreshCosignerKp).run first (.error e)) :
    Misread B refresh refreshCosignerKp first e ↔ Accepted refresh first ∧
      isStaleIntentError statusText e = true ∧ refresh.deleteIntent ≠ none := by
  constructor
  · rintro ⟨accepted, proof, h, texts, _, repeats, stale⟩
    exact ⟨accepted, (isStaleIntentError_iff repeats).mpr stale, proof⟩
  · rintro ⟨accepted, stale, proof⟩
    obtain ⟨passes, _⟩ := cons_of_accepted failed accepted
    obtain ⟨h, inner, rfl⟩ := failed.embed_inv
    obtain ⟨intentId, member⟩ := accepted
    obtain ⟨event, within, same⟩ := List.mem_map.mp member
    have registered : event = .answered (.registerIntent refresh.intent) (.ok intentId) := by
      cases event with
      | noted remark => cases same
      | sent request => cases same
      | answered request answer =>
          cases same
          rfl
    obtain ⟨texts, repeats⟩ := repeats_of_registered passes inner (registered ▸ within)
    exact ⟨⟨intentId, member⟩, proof, h, texts, rfl, repeats,
      (isStaleIntentError_iff repeats).mp stale⟩

/-- A deletion sends nothing but deletions. -/
theorem confined_deleteAttempts (intent : Intent L) (more : Nat) :
    Confined Ask.Deletes (deleteAttempts statusText intent more).run := by
  induction more with
  | zero =>
      rw [deleteAttempts_run]
      refine .ask rfl fun answer => ?_
      cases answer with
      | ok _ => exact .done _
      | error text =>
          dsimp only
          split
          · exact .done _
          · exact .done _
  | succ more ih =>
      rw [deleteAttempts_run]
      refine .ask rfl fun answer => ?_
      cases answer with
      | ok _ => exact .done _
      | error text =>
          dsimp only
          split
          · exact .done _
          · exact .ask trivial fun _ => ih

/-! ## The whole refresh -/

/-- A refused registration, a deletion, and a second ceremony. -/
theorem onlyIfRefused_of_parts {text : String} {deletion second : Journal L}
    (none : registers deletion = 0) (one : registers second ≤ 1)
    (only : ∀ request, .sent request ∈ deletion → Ask.Deletes request)
    (first : second = [] ∨ ∃ rest,
      second = .sent (.ceremony (.registerIntent refresh.intent)) :: rest) :
    OnlyIfRefused refresh (.sent (.ceremony (.registerIntent refresh.intent)) ::
      .answered (.ceremony (.registerIntent refresh.intent)) (.error text) :: deletion ++
        second) := by
  intro before intent after split registered
  refine ⟨text, deletion, ?_, only⟩
  have front : registers (.sent (.ceremony (.registerIntent refresh.intent)) ::
      .answered (.ceremony (.registerIntent refresh.intent)) (.error text) :: deletion) = 1 := by
    rw [registers_exchange, none]
    rfl
  rcases split_append split with ⟨middle, same, _⟩ | ⟨middle, rfl, same⟩
  · rw [same, registers_append, registers_cons_register] at front
    omega
  · cases middle with
    | nil => exact List.append_nil _
    | cons event middle =>
        rcases first with rfl | ⟨rest, rfl⟩
        · cases same
        · have tail : rest = middle ++ .sent (.ceremony (.registerIntent intent)) :: after :=
            (List.cons.inj same).2
          rw [registers_cons_register, tail, registers_append, registers_cons_register] at one
          omega

theorem settle_starts {j : Journal L} {t : Thread (interface L) (Except Error Txid)}
    (passes : PassesLocalChecks refresh.intoDelegate refreshCosignerKp)
    (run : Evolves (settle B info refresh refreshCosignerKp).run j t) :
    j = [] ∨ ∃ rest, j = .sent (.ceremony (.registerIntent refresh.intent)) :: rest := by
  obtain ⟨next, asks, _⟩ := @settle_of_passes L B info _ _ passes
  rw [asks] at run
  rcases Evolves.of_ask run with ⟨rfl, _⟩ | ⟨rfl, _⟩ | ⟨answer, rest, rfl, _⟩
  · exact .inl rfl
  · exact .inr ⟨_, rfl⟩
  · exact .inr ⟨_, rfl⟩

/-- What follows a first ceremony that has failed. -/
theorem onlyIfRefused_of_failed {first deletion second : Journal L} {e : Error}
    {t : Thread (interface L) (Except Error Txid)} {intent : Intent L} {attempts : Nat}
    {deleted : Option (Except Error Bool)}
    (failed : Interaction.Returns (settle B info refresh refreshCosignerKp).run first (.error e))
    (unaccepted : ¬Accepted refresh first)
    (deleting : Deleting statusText intent attempts deletion deleted)
    (only : ∀ request, .sent request ∈ deletion → Ask.Deletes request)
    (again : second = [] ∨ Evolves (settle B info refresh refreshCosignerKp).run second t) :
    OnlyIfRefused refresh (first ++ (deletion ++ second)) := by
  by_cases passes : PassesLocalChecks refresh.intoDelegate refreshCosignerKp
  · obtain ⟨text, rfl⟩ := refused_of_not_accepted passes failed unaccepted
    have one : registers second ≤ 1 := by
      rcases again with rfl | run
      · exact Nat.zero_le _
      · exact (settle_inv run).registers_le
    have starts := again.elim .inl fun run => settle_starts passes run
    exact @onlyIfRefused_of_parts L refresh text deletion second deleting.registers_eq
      one only starts
  · -- a ceremony that fails on its local checks registers nothing
    obtain ⟨e', ended⟩ := @settle_of_not_passes L B info _ _ passes
    rw [ended] at failed again
    obtain ⟨rfl, _⟩ := failed.of_done
    obtain rfl : second = [] := again.elim id fun run => (Evolves.of_done run).1
    apply onlyIfRefused_of_registers_le
    rw [registers_append, registers_append, deleting.registers_eq]
    exact Nat.zero_le _

/-- **A refresh whose first ceremony is not misread** registers again only if it was refused. -/
theorem onlyIfRefused_of_not_misread {j : Journal L} {t : Thread (interface L) (Except Error Txid)}
    (run : Evolves (executeRefresh B statusText info refresh refreshCosignerKp).run j t)
    (read : ∀ first rest e, j = first ++ rest →
      Interaction.Returns (settle B info refresh refreshCosignerKp).run first (.error e) →
      ¬Misread B refresh refreshCosignerKp first e) :
    OnlyIfRefused refresh j := by
  rw [executeRefresh] at run
  rcases Fallible.evolves_check_bind_inv run with ⟨e, _, rfl, _⟩ | ⟨⟨⟩, checked, run⟩
  · exact onlyIfRefused_of_registers_le (Nat.zero_le _)
  rcases Fallible.evolves_attempt_bind_inv run with ⟨u, first, _, _⟩ |
    ⟨first, rest, r, rfl, firstRun, later⟩
  · exact onlyIfRefused_of_registers_le (settle_inv first).registers_le
  have ended (nothing : rest = []) : OnlyIfRefused refresh (first ++ rest) := by
    rw [nothing, List.append_nil]
    exact onlyIfRefused_of_registers_le (settle_inv firstRun).registers_le
  cases r with
  | ok txid => exact ended (Evolves.of_done later).1
  | error e =>
      cases proof : refresh.deleteIntent with
      | none =>
          rw [proof] at later
          exact ended (Evolves.of_done later).1
      | some delete =>
          rw [proof] at later
          dsimp only at later
          split at later
          · next stale =>
              have unaccepted : ¬Accepted refresh first := fun accepted =>
                read first rest e rfl firstRun
                  ((misread_iff firstRun).mpr ⟨accepted, stale, by simp [proof]⟩)
              have only {d : Journal L} {v : Thread (interface L) (Except Error Bool)}
                  (deletion : Evolves (deleteIntent statusText delete staleIntentDeleteAttempts).run
                    d v) := ((confined_deleteAttempts delete _).of_sent deletion).2
              rcases Fallible.evolves_bind_inv later with ⟨u, deletion, _, _⟩ |
                ⟨e', deletion, _⟩ | ⟨deletion, second, deleted, rfl, deletionRun, secondRun⟩
              · obtain ⟨v, deletionRun, _⟩ := Evolves.map_inv deletion
                rw [← List.append_nil rest]
                exact onlyIfRefused_of_failed (t := t) firstRun unaccepted
                  (deleteIntent_inv (by decide) deletionRun) (only deletionRun) (.inl rfl)
              · obtain ⟨v, deletionRun, _⟩ := Evolves.map_inv deletion
                rw [← List.append_nil rest]
                exact onlyIfRefused_of_failed (t := t) firstRun unaccepted
                  (deleteIntent_inv (by decide) deletionRun) (only deletionRun) (.inl rfl)
              · have deletes := returns_of_inContext deletionRun
                exact onlyIfRefused_of_failed firstRun unaccepted
                  (deleteIntent_inv (by decide) deletes) (only deletes) (.inr secondRun)
          · exact ended (Evolves.of_done later).1

/-! ## A failure that is misread -/

theorem returns_deleteIntent (delete : Intent L) (maxAttempts : Nat) :
    Fallible.Returns (deleteIntent statusText delete maxAttempts)
      [.sent (.ceremony (.deleteIntent delete)),
        .answered (.ceremony (.deleteIntent delete)) (.ok ())] true := by
  rw [deleteIntent, Fallible.Returns, deleteAttempts_run]
  exact .exchange (I := interface L) (.ceremony (.deleteIntent delete)) (.ok ()) (.stop _)

theorem returns_inContext {α : Type} {x : Action L α} {j : Journal L} {a : α}
    (run : Fallible.Returns x j a) (text : String) :
    Fallible.Returns (inContext text x) j a :=
  Returns.map run _

/-- A refresh whose first ceremony is misread can register again. -/
theorem evolves_of_misread {first : Journal L} {e : Error}
    (checked : checkDeleteProof refresh = .ok ())
    (failed : Interaction.Returns (settle B info refresh refreshCosignerKp).run first (.error e))
    (misread : Misread B refresh refreshCosignerKp first e) :
    ∃ rest t, Evolves (executeRefresh B statusText info refresh refreshCosignerKp).run
      (first ++ rest) t ∧ ¬OnlyIfRefused refresh (first ++ rest) := by
  obtain ⟨accepted, stale, proven⟩ := (misread_iff failed).mp misread
  obtain ⟨delete, proof⟩ := Option.ne_none_iff_exists'.mp proven
  obtain ⟨passes, intentId, later, rfl⟩ := cons_of_accepted failed accepted
  obtain ⟨next, asks, _⟩ := @settle_of_passes L B info _ _ passes
  refine ⟨[.sent (.ceremony (.deleteIntent delete)),
    .answered (.ceremony (.deleteIntent delete)) (.ok ())] ++
      [.sent (.ceremony (.registerIntent refresh.intent))], .waiting _ next, ?_, fun only => ?_⟩
  · rw [executeRefresh, checked, Fallible.check_ok_bind, Fallible.run_attempt_bind, proof]
    refine (Evolves.bind failed _).trans ?_
    show Evolves (ExceptT.run (ite _ _ _)) _ _
    rw [if_pos stale]
    have deletes := returns_inContext
      (@returns_deleteIntent L statusText delete staleIntentDeleteAttempts)
      "deleting the stale intent holding the refresh inputs"
    refine (deletes.evolves_bind).trans ?_
    rw [asks]
    exact .send _ next
  · obtain ⟨text, deletion, same, _⟩ := only _ refresh.intent [] (List.append_assoc _ _ _).symm (by
      rw [registers_append, registers_cons_register]
      omega)
    cases (List.cons.inj (List.cons.inj same).2).1

namespace Sample

noncomputable section

open BitcoinLib

/-- The batch fails after the client has confirmed it, with a reason of the server's choice. -/
def turnedDown : List (StreamItem BatchLib.reference) :=
  [.ok (.batchStarted "batch" [intentIdHash BatchLib.reference "intent"] 144),
    .ok (.batchFailed "batch" "input already registered")]

def turnedDownError : Error := .msg "batch failed batch: input already registered"

/-- What the ceremony shows until then. -/
def turnedDownEvents (topics : List String) : List (Event (Batch.interface BatchLib.reference)) :=
  Protocol.preamble expiring.intoDelegate "intent" topics turnedDown ++
    [.sent (.confirmRegistration "intent"), .answered (.confirmRegistration "intent") (.ok ())]

theorem returns_turnedDown : ∃ topics,
    Interaction.Returns (settleDelegate reference Batch.Sample.info expiring.intoDelegate
      Batch.Sample.cosignerKp).run (turnedDownEvents topics) (.error turnedDownError) := by
  obtain ⟨own, outpoints, inputs⟩ := passes_expiring
  obtain ⟨topics, opens⟩ :=
    @evolves_settleDelegate _ reference Batch.Sample.info _ _ _ own.symm inputs
  refine ⟨topics, (opens "intent" turnedDown).trans ?_⟩
  have included : [intentIdHash BatchLib.reference "intent"].contains
      (intentIdHash BatchLib.reference "intent") = true := by simp
  have confirmed := @returns_onBatchStarted BatchLib.reference "intent" (.initial _) "batch" _ 144
    rfl included
  rw [turnedDown, eventLoop]
  exact confirmed.evolves_bind

/-- The ceremony has registered, has confirmed its batch, and has then failed for a reason that
reads like a refusal of its registration. -/
theorem misread_turnedDown : ∃ first,
    Interaction.Returns (settle reference Batch.Sample.info expiring Batch.Sample.cosignerKp).run
      first (.error turnedDownError) ∧
      .sent (.ceremony (.confirmRegistration "intent")) ∈ first ∧
      Misread reference expiring Batch.Sample.cosignerKp first turnedDownError := by
  obtain ⟨topics, failed⟩ := returns_turnedDown
  have accepts : .answered (.registerIntent expiring.intent) (.ok "intent") ∈
      turnedDownEvents topics :=
    List.mem_append_left _ (List.mem_cons_of_mem _ List.mem_cons_self)
  have streams : .answered (.getEventStream topics) (.ok turnedDown) ∈ turnedDownEvents topics :=
    List.mem_append_left _ (List.mem_of_getLast? rfl)
  have confirms : .sent (.confirmRegistration "intent") ∈ turnedDownEvents topics :=
    List.mem_append_right _ List.mem_cons_self
  have fails : .ok (.batchFailed "batch" "input already registered") ∈
      received (turnedDownEvents topics) :=
    List.mem_flatMap.mpr ⟨_, streams, List.mem_cons_of_mem _ List.mem_cons_self⟩
  exact ⟨_, failed.embed (ceremony BatchLib.reference),
    List.mem_map_of_mem (f := Event.embed (ceremony _)) confirms,
    ⟨"intent", List.mem_map_of_mem (f := Event.embed (ceremony _)) accepts⟩,
    Option.some_ne_none _, _, _, rfl, .failed fails, "input already registered", by simp,
    by decide⟩

end

end Sample

/-- **A refresh registers again only if its first registration was refused, except when** the
error of a ceremony that fails later reads like a refusal. For every refresh and every
behaviour of the server. -/
theorem registers_again_only_if_refused_iff :
    (∀ j t, Evolves (executeRefresh B statusText info refresh refreshCosignerKp).run j t →
      (∀ first rest e, j = first ++ rest →
        Interaction.Returns (settle B info refresh refreshCosignerKp).run first (.error e) →
        ¬Misread B refresh refreshCosignerKp first e) →
      OnlyIfRefused refresh j) ∧
    ∀ first e, checkDeleteProof refresh = .ok () →
      Interaction.Returns (settle B info refresh refreshCosignerKp).run first (.error e) →
      ((∀ rest t, Evolves (executeRefresh B statusText info refresh refreshCosignerKp).run
          (first ++ rest) t → OnlyIfRefused refresh (first ++ rest)) ↔
        ¬Misread B refresh refreshCosignerKp first e) := by
  refine ⟨fun j t => onlyIfRefused_of_not_misread, fun first e checked failed => ⟨?_, ?_⟩⟩
  · intro only misread
    obtain ⟨rest, t, run, again⟩ := evolves_of_misread checked failed misread
    exact again (only rest t run)
  · intro read rest t run
    refine onlyIfRefused_of_not_misread run fun first' rest' e' same failed' => ?_
    obtain ⟨rfl, sameError⟩ := failed.eq_of_append failed' same
    cases sameError
    exact read

/-- The server accepts the registration, and lets the batch that the client has confirmed fail. -/
theorem registers_again_after_acceptance :
    ¬∀ (L : BatchLib) (B : BitcoinLib) (statusText : Status → String) (info : Info)
      (refresh : RefreshIntent L) (refreshCosignerKp : Keypair) (j : Journal L)
      (t : Thread (interface L) (Except Error Txid)),
        Evolves (executeRefresh B statusText info refresh refreshCosignerKp).run j t →
        OnlyIfRefused refresh j := by
  intro only
  obtain ⟨first, failed, _, misread⟩ := Sample.misread_turnedDown
  obtain ⟨rest, t, run, again⟩ :=
    @evolves_of_misread _ _ Sample.printed _ _ _ _ _ Sample.checkDeleteProof_expiring failed misread
  exact again (only _ _ _ _ _ _ _ _ run)

theorem registers_again_only_if_refused_sample : ∃ first,
    Interaction.Returns (settle BitcoinLib.reference Batch.Sample.info Sample.expiring
      Batch.Sample.cosignerKp).run first (.error Sample.turnedDownError) ∧
    .sent (.ceremony (.confirmRegistration "intent")) ∈ first ∧
    ¬∀ rest t, Evolves (executeRefresh BitcoinLib.reference Sample.printed Batch.Sample.info
      Sample.expiring Batch.Sample.cosignerKp).run (first ++ rest) t →
      OnlyIfRefused Sample.expiring (first ++ rest) := by
  obtain ⟨first, failed, confirms, misread⟩ := Sample.misread_turnedDown
  refine ⟨first, failed, confirms, fun only => ?_⟩
  exact (registers_again_only_if_refused_iff.2 first _ Sample.checkDeleteProof_expiring failed).mp
    only misread

end Refresh
end ArkadeEscrow
