import ArkadeEscrow.Batch.Completion
import ArkadeEscrow.Interaction.Punctual
import ArkadeEscrow.Refresh.Retry

/-!
# Getting past a stale intent

An earlier attempt can have left an intent behind that holds the inputs of a refresh. The server
refuses the registration then. While the batch with that intent runs the intent cannot be deleted
either, since it is not queued; it is queued again when the batch fails (`Stale`).

One refresh tries to delete it six times, and a seventh time when it has failed. Refreshing
again and again, the client therefore gets past the intent after a number of failures that
depends on nothing but how long the intent stays out of the queue (`refresh_recovers`).
-/

set_option autoImplicit false

namespace ArkadeEscrow
namespace Refresh

open Interaction Program Batch
open Service (Follows)

variable {L : BatchLib} {B : BitcoinLib} {statusText : Status → String} {σ : Type}
variable {info : Info} {refresh : RefreshIntent L} {refreshCosignerKp : Keypair}
  {delete : Intent L} {intentId : String} {client : EscrowClient}

/-- A server that may hold the inputs for an earlier intent, and takes everything else. `stale`
counts the deletions that come to nothing before the intent is queued again. -/
structure Stale (E : Environment (interface L) σ) (delete : Intent L) (intentId : String)
    (stream : List (StreamItem L)) (stale : σ → Option Nat) : Prop where
  accepts : ∀ s, stale s = none → Accepts (E.within (ceremony L)) s intentId stream
  refuses : ∀ s n intent, stale s = some n → ∃ text s',
    E.answer s (.ceremony (.registerIntent intent)) = (.error text, s') ∧
      strContains text "already registered" = true ∧ stale s' = some n
  absent : ∀ s n, stale s = some (n + 1) → ∃ text s',
    E.answer s (.ceremony (.deleteIntent delete)) = (.error text, s') ∧
      strContains text "no matching intents" = true ∧ stale s' = some n
  deletes : ∀ s, stale s = some 0 → ∃ s',
    E.answer s (.ceremony (.deleteIntent delete)) = (.ok (), s') ∧ stale s' = none
  sleeps : ∀ s millis, stale (E.answer s (.sleep millis)).2 = stale s

/-- So much is left after a number of attempts to delete. -/
def leftAfter (attempts n : Nat) : Option Nat :=
  if n < attempts then none else some (n - attempts)

theorem leftAfter_sub {attempts more n : Nat} (enough : attempts ≤ n) :
    leftAfter more (n - attempts) = leftAfter (attempts + more) n := by
  rw [leftAfter, leftAfter, Nat.sub_sub]
  exact if_congr (by omega) rfl rfl

/-- The refreshes that fail before one completes, each of them with its attempts and that of
its cleanup. -/
def failures : Option Nat → Nat
  | none => 0
  | some n => (n + 1) / (staleIntentDeleteAttempts + 1)

theorem failures_eq_zero_iff {stale : Option Nat} :
    failures stale = 0 ↔ ∀ n, stale = some n → n < staleIntentDeleteAttempts := by
  cases stale with
  | none => simp [failures]
  | some n => simp [failures, Nat.div_eq_zero_iff]

/-- A refresh that fails is one failure less for the next. -/
theorem failures_leftAfter {n : Nat} (enough : staleIntentDeleteAttempts ≤ n) :
    failures (some n) = failures (leftAfter (staleIntentDeleteAttempts + 1) n) + 1 := by
  rw [leftAfter]
  split
  · next last =>
      obtain rfl : n = staleIntentDeleteAttempts := by omega
      rfl
  · next more =>
      rw [failures, failures, ← Nat.add_div_right _ (Nat.succ_pos _)]
      congr 1
      omega

/-! ## Deleting -/

theorem noMatching_of_contains {text : String}
    (contains : strContains text "no matching intents" = true) :
    isNoMatchingIntentError statusText (.msg text) = true :=
  contains

/-- The last attempt finds nothing to delete. -/
theorem returns_absent_last {text : String}
    (contains : strContains text "no matching intents" = true) :
    Fallible.Returns (deleteAttempts statusText delete 0)
      [.sent (.ceremony (.deleteIntent delete)),
        .answered (.ceremony (.deleteIntent delete)) (.error text)] false := by
  have absent : isNoMatchingIntentError statusText (.msg text) = true :=
    noMatching_of_contains contains
  unfold Fallible.Returns
  rw [deleteAttempts_run]
  refine .exchange (I := interface L) (.ceremony (.deleteIntent delete)) (.error text) ?_
  simp only [absent]
  exact .stop _

/-- An attempt finds nothing to delete, and there are more. -/
theorem returns_absent {text : String} {more : Nat} {events : Journal L} {deleted : Bool}
    (contains : strContains text "no matching intents" = true)
    (later : Fallible.Returns (deleteAttempts statusText delete more) events deleted) :
    Fallible.Returns (deleteAttempts statusText delete (more + 1))
      (.sent (.ceremony (.deleteIntent delete)) ::
        .answered (.ceremony (.deleteIntent delete)) (.error text) ::
        .sent (.sleep staleIntentDeleteRetryDelay) ::
        .answered (.sleep staleIntentDeleteRetryDelay) () :: events) deleted := by
  have absent : isNoMatchingIntentError statusText (.msg text) = true :=
    noMatching_of_contains contains
  unfold Fallible.Returns at later ⊢
  rw [deleteAttempts_run]
  refine .exchange (I := interface L) (.ceremony (.deleteIntent delete)) (.error text) ?_
  simp only [absent]
  exact .exchange (I := interface L) (.sleep staleIntentDeleteRetryDelay) () later

/-- **So many attempts delete the intent, or come so much closer to it.** The induction is on
the attempts. -/
theorem returns_deleteAttempts {E : Environment (interface L) σ} {stream : List (StreamItem L)}
    {stale : σ → Option Nat} (server : Stale E delete intentId stream stale) (more : Nat) {s : σ}
    {n : Nat} (held : stale s = some n) :
    ∃ deleted events s', Fallible.Returns (deleteAttempts statusText delete more) events deleted ∧
      Follows E.observer s events s' ∧ stale s' = leftAfter (more + 1) n := by
  induction more generalizing s n with
  | zero =>
      cases n with
      | zero =>
          obtain ⟨s', answers, gone⟩ := server.deletes s held
          exact ⟨true, _, s', returns_deleteIntent delete 1,
            .sent _ (.answered _ answers (.nil s')), gone⟩
      | succ n =>
          obtain ⟨text, s', answers, contains, left⟩ := server.absent s n held
          exact ⟨false, _, s', returns_absent_last contains,
            .sent _ (.answered _ answers (.nil s')), left⟩
  | succ more ih =>
      cases n with
      | zero =>
          obtain ⟨s', answers, gone⟩ := server.deletes s held
          exact ⟨true, _, s', returns_deleteIntent delete (more + 2),
            .sent _ (.answered _ answers (.nil s')), gone⟩
      | succ n =>
          obtain ⟨text, s₁, answers, contains, left⟩ := server.absent s n held
          obtain ⟨deleted, events, s', returns, follows, left⟩ :=
            ih ((server.sleeps s₁ staleIntentDeleteRetryDelay).trans left)
          refine ⟨deleted, _, s', returns_absent contains returns,
            .sent _ (.answered _ answers (.sent _ (.answered _ rfl follows))), ?_⟩
          simpa [leftAfter] using left

/-! ## One refresh -/

/-- What ends in time ends so under a timeout. -/
theorem returns_runWithTimeout_inTime {α : Type} {E : Environment (interface L) σ} {s s' : σ}
    {future : Action L α} {events : Journal L} {r : Except Error α}
    (returns : Interaction.Returns future.run events r) (follows : Follows E.observer s events s')
    (timeout : Option Nat) (operation : String) :
    ∃ h, Interaction.Returns (runWithTimeout timeout operation future).run h r ∧
      Follows E.punctual.observer s h s' := by
  cases timeout with
  | none => exact ⟨_, returns.unhurried, Environment.follows_punctual _ follows⟩
  | some millis =>
      exact ⟨_, Interaction.Returns.map returns.hurried _,
        Environment.follows_punctual suspends follows⟩

section Recovering

variable {c : Course L} {graph : L.TxGraph} {signedForfeits : List Psbt}
  {E : Environment (interface L) σ} {stale : σ → Option Nat} {s : σ} {n : Nat}

/-- A registration that the server refuses ends the ceremony. -/
theorem returns_settle_refused (passes : PassesLocalChecks refresh.intoDelegate refreshCosignerKp)
    (text : String) :
    Interaction.Returns (settle B info refresh refreshCosignerKp).run
      [.sent (.ceremony (.registerIntent refresh.intent)),
        .answered (.ceremony (.registerIntent refresh.intent)) (.error text)]
      (.error ((Error.msg text).context "registering delegated intent")) := by
  obtain ⟨own, outpoints, inputs⟩ := passes
  have first : ensure (refreshCosignerKp.publicKey == refresh.intoDelegate.delegateCosignerPk)
      "cosigner keypair does not match delegate_cosigner_pk" = .ok () :=
    ensure_eq_ok_iff.mpr (by simpa using own)
  rw [settle, settleDelegate, first, inputs]
  exact .exchange (I := interface L) (.ceremony (.registerIntent refresh.intent)) (.error text)
    (.stop _)

theorem stale_of_contains {text : String}
    (contains : strContains text "already registered" = true) :
    isStaleIntentError statusText ((Error.msg text).context "registering delegated intent") =
      true := by
  show strContains ("registering delegated intent" ++ ": " ++ text) _ = true
  exact strContains_stale_colon.mpr (.inr contains)

/-- The ceremony, where nothing holds the inputs. -/
theorem returns_settle_free (laws : TreeLaws L B)
    (passes : PassesLocalChecks refresh.intoDelegate refreshCosignerKp)
    (regular : Regular info refresh.intoDelegate refreshCosignerKp intentId c graph signedForfeits)
    (server : Stale E delete intentId c.stream stale) (free : stale s = none) :
    ∃ events s', Fallible.Returns (settle B info refresh refreshCosignerKp) events
        c.commitmentTxid ∧
      Follows E.observer s events s' := by
  obtain ⟨_, _, _, events, s', returns, follows, _, _⟩ :=
    regular.returns laws passes (server.accepts s free)
  exact ⟨_, s', returns.embed (ceremony L), Environment.follows_embed follows⟩

variable (laws : TreeLaws L B)
  (passes : PassesLocalChecks refresh.intoDelegate refreshCosignerKp)
  (regular : Regular info refresh.intoDelegate refreshCosignerKp intentId c graph signedForfeits)
  (proof : refresh.deleteIntent = some delete) (checked : checkDeleteProof refresh = .ok ())
  (server : Stale E delete intentId c.stream stale)

include laws passes regular checked server

theorem returns_executeRefresh_free (free : stale s = none) :
    ∃ events s', Fallible.Returns (executeRefresh B statusText info refresh refreshCosignerKp)
        events c.commitmentTxid ∧
      Follows E.observer s events s' := by
  obtain ⟨events, s', returns, follows⟩ :=
    returns_settle_free laws passes regular server free
  refine ⟨events ++ [], s', ?_, by rwa [List.append_nil]⟩
  rw [executeRefresh, checked, Fallible.check_ok_bind]
  refine returns.attempt.bind ?_
  exact .stop _

include proof

/-- **A stale intent that is queued again in time is deleted, and the refresh completes.** -/
theorem returns_executeRefresh_held (held : stale s = some n) :
    ∃ r events s', Interaction.Returns
        (executeRefresh B statusText info refresh refreshCosignerKp).run events r ∧
      Follows E.observer s events s' ∧
      (n < staleIntentDeleteAttempts → r = .ok c.commitmentTxid) ∧
      (staleIntentDeleteAttempts ≤ n →
        (∃ e, r = .error e) ∧ stale s' = some (n - staleIntentDeleteAttempts)) := by
  obtain ⟨text, s₁, refuses, contains, held₁⟩ := server.refuses s n refresh.intent held
  have refused := @returns_settle_refused _ B info _ _ passes text
  have isStale := @stale_of_contains statusText _ contains
  obtain ⟨deleted, deletion, s₂, deletes, follows, left⟩ :=
    @returns_deleteAttempts _ statusText _ _ _ _ _ _ server (staleIntentDeleteAttempts - 1) _ _
      held₁
  have deletes' := returns_inContext deletes
    "deleting the stale intent holding the refresh inputs"
  have first : Evolves (executeRefresh B statusText info refresh refreshCosignerKp).run
      ([.sent (.ceremony (.registerIntent refresh.intent)),
        .answered (.ceremony (.registerIntent refresh.intent)) (.error text)] ++ deletion)
      (.running (settle B info refresh refreshCosignerKp).run) := by
    rw [executeRefresh, checked, Fallible.check_ok_bind, Fallible.run_attempt_bind, proof]
    refine (Evolves.bind refused _).trans ?_
    show Evolves (ExceptT.run (ite _ _ _)) _ _
    rw [if_pos isStale]
    exact deletes'.evolves_bind
  have follows₂ : Follows E.observer s ([.sent (.ceremony (.registerIntent refresh.intent)),
      .answered (.ceremony (.registerIntent refresh.intent)) (.error text)] ++ deletion) s₂ :=
    .sent _ (.answered _ refuses follows)
  replace left : stale s₂ = leftAfter staleIntentDeleteAttempts n := left
  rw [leftAfter] at left
  by_cases inTime : n < staleIntentDeleteAttempts
  · rw [if_pos inTime] at left
    obtain ⟨events, s', returns, follows'⟩ := returns_settle_free laws passes regular server left
    exact ⟨_, _, s', first.trans returns, follows_append.mpr ⟨s₂, follows₂, follows'⟩,
      fun _ => rfl, fun late => absurd inTime (Nat.not_lt.mpr late)⟩
  · rw [if_neg inTime] at left
    obtain ⟨text', s', refuses', _, held'⟩ := server.refuses s₂ _ refresh.intent left
    have again := @returns_settle_refused _ B info _ _ passes text'
    exact ⟨_, _, s', first.trans again,
      follows_append.mpr ⟨s₂, follows₂, .sent _ (.answered _ refuses' (.nil s'))⟩,
      fun soon => absurd soon inTime, fun _ => ⟨⟨_, rfl⟩, held'⟩⟩

omit laws passes regular proof server in
/-- A ceremony that succeeds in time is the end of the refresh. -/
theorem returns_refreshEscrow_completed (connected : serverInfo client.serverInfo = .ok info)
    {events : Journal L} {txid : Txid} {s' : σ}
    (returns : Fallible.Returns (executeRefresh B statusText info refresh refreshCosignerKp)
      events txid) (follows : Follows E.observer s events s') :
    ∃ h, Fallible.Returns (refreshEscrow B statusText client refresh refreshCosignerKp) h txid ∧
      Follows E.punctual.observer s h s' := by
  obtain ⟨h, ceremony, follows⟩ := returns_runWithTimeout_inTime returns follows
    client.refreshTimeout "refreshing escrow"
  exact ⟨_, evolves_settled connected checked ceremony,
    follows_append.mpr ⟨s', follows, .noted _ (.nil s')⟩⟩

omit laws passes regular in
/-- After one that fails, the intent is withdrawn, in one attempt. -/
theorem returns_refreshEscrow_failed (connected : serverInfo client.serverInfo = .ok info)
    {events : Journal L} {e : Error} {s₁ : σ}
    (returns : Interaction.Returns (executeRefresh B statusText info refresh refreshCosignerKp).run
      events (.error e)) (follows : Follows E.observer s events s₁) (held : stale s₁ = some n) :
    ∃ h s', Interaction.Returns (refreshEscrow B statusText client refresh refreshCosignerKp).run h
        (.error e) ∧
      Follows E.punctual.observer s h s' ∧ stale s' = leftAfter 1 n := by
  obtain ⟨h, ceremony, follows⟩ := returns_runWithTimeout_inTime returns follows
    client.refreshTimeout "refreshing escrow"
  obtain ⟨deleted, deletion, s', deletes, follows', left⟩ :=
    @returns_deleteAttempts _ statusText _ _ _ _ _ _ server 0 _ _ held
  obtain ⟨h', deletes, follows'⟩ := returns_runWithTimeout_inTime deletes follows'
    (some (client.timeout.getD defaultTimeout)) "deleting refresh intent"
  have cleansUp : Interaction.Returns (cleanup statusText client refresh (.error e)).run
      (h' ++ []) (.error e) := by
    unfold cleanup
    rw [proof]
    exact (Fallible.evolves_attempt_bind deletes).trans (.stop _)
  refine ⟨_, s', (evolves_settled connected checked ceremony).trans cleansUp, ?_, left⟩
  rw [List.append_nil]
  exact follows_append.mpr ⟨s₁, follows_append.mpr ⟨s₁, follows, .noted _ (.nil s₁)⟩, follows'⟩

/-- **One refresh, in time.** It completes unless the intent stays out of the queue for all of
its attempts, and then it has come closer by one attempt more, that of the cleanup. -/
theorem refreshEscrow_runIn (connected : serverInfo client.serverInfo = .ok info) (s : σ) :
    ∃ events r s', (refreshEscrow B statusText client refresh refreshCosignerKp).run.runIn
        E.punctual s = ⟨events, some r, s'⟩ ∧
      ((∀ n, stale s = some n → n < staleIntentDeleteAttempts) → r = .ok c.commitmentTxid) ∧
      ∀ n, stale s = some n → staleIntentDeleteAttempts ≤ n →
        (∃ e, r = .error e) ∧ stale s' = leftAfter (staleIntentDeleteAttempts + 1) n := by
  cases held : stale s with
  | none =>
      obtain ⟨events, s', returns, follows⟩ :=
        @returns_executeRefresh_free _ _ statusText _ _ _ _ _ _ _ _ _ _ _ _ laws passes regular
          checked server held
      obtain ⟨h, returns, follows⟩ :=
        returns_refreshEscrow_completed checked connected returns follows
      exact ⟨h, _, s', returns.runIn_eq follows, fun _ => rfl, nofun⟩
  | some n =>
      obtain ⟨r, events, s₁, returns, follows, soon, late⟩ :=
        @returns_executeRefresh_held _ _ statusText _ _ _ _ _ _ _ _ _ _ _ _ _ laws passes regular
          proof checked server held
      by_cases inTime : n < staleIntentDeleteAttempts
      · obtain rfl := soon inTime
        obtain ⟨h, returns, follows⟩ :=
          returns_refreshEscrow_completed checked connected returns follows
        refine ⟨h, _, s₁, returns.runIn_eq follows, fun _ => rfl, fun n' same late' => ?_⟩
        obtain rfl := Option.some.inj same
        exact absurd inTime (Nat.not_lt.mpr late')
      · obtain ⟨⟨e, rfl⟩, left⟩ := late (Nat.not_lt.mp inTime)
        obtain ⟨h, s', returns, follows, left'⟩ :=
          returns_refreshEscrow_failed proof checked server connected returns follows left
        refine ⟨h, _, s', returns.runIn_eq follows, fun soon' => absurd (soon' n rfl) inTime, ?_⟩
        intro n' same _
        obtain rfl := Option.some.inj same
        exact ⟨⟨e, rfl⟩, left'.trans (leftAfter_sub (Nat.not_lt.mp inTime))⟩

end Recovering

/-! ## One refresh after the other -/

section Again

variable (B statusText client refresh refreshCosignerKp) (E : Environment (interface L) σ)

/-- A refresh in an environment in which no deadline fires. -/
def refreshing (s : σ) : WholeRun (interface L).scheduled (Except Error Txid) σ :=
  (refreshEscrow B statusText client refresh refreshCosignerKp).run.runIn E.punctual s

/-- The environment after so many refreshes. -/
def refreshed (k : Nat) (s : σ) : σ :=
  (fun s => (refreshing B statusText refresh refreshCosignerKp client E s).state)^[k] s

end Again

/-- **A stale intent delays a refresh and does not stop it.** However long the intent of an
earlier attempt stays out of the queue, refreshing again and again fails a number of times that
only depends on that, and then completes. If the intent is queued again within six attempts to
delete it, the first refresh completes. -/
theorem refresh_recovers (laws : TreeLaws L B)
    (passes : PassesLocalChecks refresh.intoDelegate refreshCosignerKp) {c : Course L}
    {graph : L.TxGraph} {signedForfeits : List Psbt}
    (regular : Regular info refresh.intoDelegate refreshCosignerKp intentId c graph signedForfeits)
    (proof : refresh.deleteIntent = some delete) (checked : checkDeleteProof refresh = .ok ())
    {E : Environment (interface L) σ} {stale : σ → Option Nat}
    (server : Stale E delete intentId c.stream stale)
    (connected : serverInfo client.serverInfo = .ok info) (s : σ) :
    (∀ k < failures (stale s), ∃ e, (refreshing B statusText refresh refreshCosignerKp client E
      (refreshed B statusText refresh refreshCosignerKp client E k s)).result =
        some (.error e)) ∧
    (refreshing B statusText refresh refreshCosignerKp client E
      (refreshed B statusText refresh refreshCosignerKp client E (failures (stale s)) s)).result =
        some (.ok c.commitmentTxid) := by
  have call (s : σ) := @refreshEscrow_runIn _ B statusText _ _ _ _ _ _ client _ _ _ _ _ laws passes
    regular proof checked server connected s
  generalize count : failures (stale s) = k
  induction k generalizing s with
  | zero =>
      obtain ⟨events, r, s', run, soon, -⟩ := call s
      refine ⟨nofun, ?_⟩
      rw [refreshed, Function.iterate_zero_apply, refreshing, run,
        soon (failures_eq_zero_iff.mp count)]
  | succ k ih =>
      obtain ⟨events, r, s', run, -, late⟩ := call s
      obtain ⟨n, held, enough⟩ : ∃ n, stale s = some n ∧ staleIntentDeleteAttempts ≤ n := by
        have some : ¬∀ n, stale s = some n → n < staleIntentDeleteAttempts := by
          rw [← failures_eq_zero_iff, count]
          exact Nat.succ_ne_zero k
        simpa using some
      obtain ⟨⟨e, rfl⟩, left⟩ := late n held enough
      rw [held, failures_leftAfter enough, ← left] at count
      obtain ⟨fails, completes⟩ := ih s' (Nat.succ.inj count)
      have next (k : Nat) : refreshed B statusText refresh refreshCosignerKp client E (k + 1) s =
          refreshed B statusText refresh refreshCosignerKp client E k s' := by
        rw [refreshed, Function.iterate_succ_apply, refreshing, run]
        rfl
      refine ⟨fun k' before => ?_, by rw [next]; exact completes⟩
      cases k' with
      | zero =>
          refine ⟨e, ?_⟩
          rw [refreshed, Function.iterate_zero_apply, refreshing, run]
      | succ k' =>
          rw [next]
          exact fails k' (Nat.lt_of_succ_lt_succ before)

/-! ## An intent that is out of the queue for a while -/

noncomputable section

namespace Sample

/-- The batch of the sample ceremony, with a delete proof over the same inputs. -/
def renewing : RefreshIntent BatchLib.forest where
  intent := Forest.delegate.intent
  forfeitPsbts := Forest.delegate.forfeitPsbts
  refreshCosignerPk := Forest.cosignerKp.publicKey
  deleteIntent := some Forest.delegate.intent

/-- The server holds the inputs as long as its state is not `none`. -/
def holding : Environment (interface BatchLib.forest) (Option Nat) where
  answer s
    | .sleep _ => ((), s)
    | .ceremony (.registerIntent _) =>
        match s with
        | none => (.ok "intent", none)
        | some n => (.error "input already registered", some n)
    | .ceremony (.deleteIntent _) =>
        match s with
        | none => (.ok (), none)
        | some 0 => (.ok (), none)
        | some (n + 1) => (.error "no matching intents found", some n)
    | .ceremony request => (((willing "intent" Forest.course.stream).answer () request).1, s)

theorem stale_holding :
    Stale holding Forest.delegate.intent "intent" Forest.course.stream fun s => s where
  accepts s free := by
    obtain rfl : s = none := free
    exact ⟨fun _ => rfl, fun _ _ => rfl, fun _ _ => rfl, fun _ _ _ _ => rfl, fun _ _ _ _ => rfl,
      fun _ _ _ => rfl⟩
  refuses s n intent held := by
    obtain rfl : s = some n := held
    have contains : "already registered".toList <:+: "input already registered".toList :=
      ⟨"input ".toList, [], rfl⟩
    exact ⟨_, _, rfl, decide_eq_true contains, rfl⟩
  absent s n held := by
    obtain rfl : s = some (n + 1) := held
    have contains : "no matching intents".toList <:+: "no matching intents found".toList :=
      ⟨[], " found".toList, rfl⟩
    exact ⟨_, _, rfl, decide_eq_true contains, rfl⟩
  deletes s held := by
    obtain rfl : s = some 0 := held
    exact ⟨_, rfl, rfl⟩
  sleeps _ _ := rfl

theorem checkDeleteProof_renewing : checkDeleteProof renewing = .ok () :=
  ensureSameInputs_eq_ok_iff.mpr (.refl _)

end Sample

end

/-- It is queued again at the fifteenth attempt to delete it: two refreshes fail, and the third
completes. -/
theorem refresh_recovers_sample :
    (∀ k < 2, ∃ e, (refreshing .reference Sample.printed Sample.renewing Forest.cosignerKp
      Sample.connected Sample.holding (refreshed .reference Sample.printed Sample.renewing
        Forest.cosignerKp Sample.connected Sample.holding k (some 14))).result =
          some (.error e)) ∧
    (refreshing .reference Sample.printed Sample.renewing Forest.cosignerKp Sample.connected
      Sample.holding (refreshed .reference Sample.printed Sample.renewing Forest.cosignerKp
        Sample.connected Sample.holding 2 (some 14))).result = some (.ok ⟨1⟩) :=
  refresh_recovers treeLaws_forest ⟨rfl, _, rfl⟩ regular_course rfl
    Sample.checkDeleteProof_renewing Sample.stale_holding rfl (some 14)

end Refresh
end ArkadeEscrow
