import CtpSystem.Trade.Steps

/-!
# Loss of the trading front

The actor's login ids stand for a connection.  A ghost flag records that a
`FrontDisconnected` was consumed since the last `SettlementConfirmed`, by
whichever loop was receiving; the invariant says that the ids are gone then.
-/

namespace CtpSystem

open Reactive

/-- The flag after one step: only events the actor takes are consumed. -/
def recordDrop (dropped : Bool) (actor : TradeActor) (input : World × TradeInput) : Bool :=
  match input.2 with
  | .event (.frontDisconnected _) => actor.takesEvent || dropped
  | .event .settlementConfirmed => !actor.takesEvent && dropped
  | _ => dropped

/-- The actor of an account, watched for a lost front. -/
def watchFront (accountId : AccountId) :
    Machine (TradeActor × Bool) (World × TradeInput) Effect :=
  (TradeActor.machine accountId).observe false recordDrop

/-- The CTP requests that need a login: orders, cancels and queries. -/
def CtpRequest.needsLogin : CtpRequest → Bool
  | .authenticate _ _ _ _ _ | .userLogin _ _ _ _ | .settlementInfoConfirm _ _ _ => false
  | _ => true

/-- Effects that rely on the login ids: a request that needs a login, or the answer
that an account is logged in. -/
def Effect.usesLogin : Effect → Bool
  | .request call _ => call.needsLogin
  | .reply _ (.accountStateUpdate state) => state.state = .loggedIn
  | _ => false

/-- At the top of the loop, a lost front has cleared the login ids, and no command
is served on the strength of the lost connection. -/
def DropRemembered (accountId : AccountId) (watched : TradeActor × Bool) : Prop :=
  watched.2 = true → watched.1.driver = none →
    watched.1.loggedInIds = none ∧
      ∀ world command,
        ∀ effect ∈ (TradeActor.machine accountId).emits watched.1 (world, .command command),
          effect.usesLogin = false

/-- The front is lost while a cancel or a query waits for its answer. -/
def lostInWait (actor : TradeActor) (input : World × TradeInput) : Bool :=
  match input.2 with
  | .event (.frontDisconnected _) => actor.takesEvent && actor.driver.any Driver.isRequest
  | _ => false

/-- What carries the property along a run: a lost front has cleared the ids in
every state, and there are none during a login. -/
structure DropInvariant (watched : TradeActor × Bool) : Prop where
  forgotten : watched.2 = true → watched.1.loggedInIds = none
  loginLoggedOut : ∀ credentials replyTo loginIds,
    watched.1.driver = some (.tradeLogin credentials replyTo loginIds) →
      watched.1.loggedInIds = none

/-- An actor that is logged out has nothing to remember. -/
theorem dropInvariant_of_loggedOut {actor : TradeActor} {dropped : Bool}
    (loggedOut : actor.loggedInIds = none) : DropInvariant (actor, dropped) where
  forgotten := by
    intro _
    exact loggedOut
  loginLoggedOut := by
    intro _ _ _ _
    exact loggedOut

/-- Only a `FrontDisconnected` raises the flag. -/
theorem recordDrop_of_not_frontDisconnected {dropped : Bool} {actor : TradeActor}
    {input : World × TradeInput}
    (other : ∀ reason, input.2 ≠ .event (.frontDisconnected reason))
    (recorded : recordDrop dropped actor input = true) : dropped = true := by
  rcases input with ⟨world, input⟩
  cases input with
  | command command => exact recorded
  | event event =>
      cases event with
      | frontDisconnected reason => exact absurd rfl (other reason)
      | settlementConfirmed => exact ((Bool.and_eq_true _ _).mp recorded).2
      | _ => exact recorded

/-- One step keeps the invariant unless the front is lost in a wait. -/
theorem dropInvariant_next (accountId : AccountId) (watched : TradeActor × Bool)
    (input : World × TradeInput) (invariant : DropInvariant watched)
    (noticed : lostInWait watched.1 input = false) :
    DropInvariant ((watchFront accountId).next watched input) := by
  rcases watched with ⟨actor, dropped⟩
  rcases input with ⟨world, input⟩
  constructor
  · have stepped := TradeActor.step_case accountId actor (world, input)
    simp only [watchFront, Machine.observe_next] at stepped ⊢
    generalize (TradeActor.machine accountId).next actor (world, input) = next at *
    generalize (TradeActor.machine accountId).emits actor (world, input) = effects at *
    intro recorded
    cases stepped with
    | ignoredCommand command busy => exact invariant.forgotten recorded
    | ignoredEvent event deaf =>
        apply invariant.forgotten
        cases event <;> simpa [recordDrop, deaf] using recorded
    | command command idle =>
        have cleared := invariant.forgotten recorded
        rw [handleTradeCommand_loggedInIds, cleared, ite_self]
    | idleEvent event idle connected loggedIn =>
        by_cases lost : ∃ reason, event = .frontDisconnected reason
        · rcases lost with ⟨reason, rfl⟩
          rfl
        · rw [handleLoggedInTradeEvent_fst accountId world actor event lost]
          apply invariant.forgotten
          apply recordDrop_of_not_frontDisconnected _ recorded
          intro reason equal
          exact lost ⟨reason, TradeInput.event.inj equal⟩
    | requestEvent event driver waits request =>
        apply invariant.forgotten
        apply recordDrop_of_not_frontDisconnected _ recorded
        intro reason lost
        cases TradeInput.event.inj lost
        simp [lostInWait, TradeActor.takesEvent_of_waitsIn waits, waits.2, request] at noticed
    | loginEvent event session credentials replyTo loginIds connected suspended =>
        by_cases confirmation : event = .settlementConfirmed
        · subst confirmation
          simp [recordDrop, TradeActor.takesEvent_of_suspended connected suspended] at recorded
        · have kept := driveTradeLoginEvent_loggedInIds world actor session credentials
            replyTo loginIds event confirmation
          rw [reportLoginFailure_state, kept]
          exact invariant.loginLoggedOut credentials replyTo loginIds suspended
  · intro credentials replyTo loginIds handled
    exact loggedOut_of_login_next accountId invariant.loginLoggedOut handled

/-- While logged out, no command uses a login. -/
theorem usesLogin_of_loggedOut (accountId : AccountId) {actor : TradeActor}
    (idle : actor.driver = none) (loggedOut : actor.loggedInIds = none) (world : World)
    (command : TradeSessionCommand) {effect : Effect}
    (emitted : effect ∈
      (TradeActor.machine accountId).emits actor (world, .command command)) :
    effect.usesLogin = false := by
  have handled : (TradeActor.machine accountId).emits actor (world, .command command) =
      (handleLoggedOutTradeCommand accountId world actor command).outputs := by
    simp [Machine.emits, TradeActor.machine, TradeActor.step, idle, handleTradeCommand,
      loggedOut]
  rw [handled] at emitted
  cases command with
  | login credentials replyTo =>
      simp only [handleLoggedOutTradeCommand, driveTradeLogin, loggedOut,
        reportLoginFailure] at emitted
      split at emitted <;> split at emitted <;>
        simp_all [TradeActor.finish, TradeActor.waitIn, sendAccountState, accountState,
          Effect.usesLogin]
  | _ =>
      simp only [handleLoggedOutTradeCommand, TradeActor.finish_outputs,
        List.mem_singleton] at emitted
      subst emitted
      rfl

/-- In every run in which no front is lost while a cancel or a query waits, every
lost front is remembered. -/
theorem frontDisconnected_remembered (accountId : AccountId)
    (inputs : List (World × TradeInput))
    (noticed : (watchFront accountId).Always
      (fun watched input => lostInWait watched.1 input = false)
      (watchFront accountId).init inputs) :
    (watchFront accountId).Throughout (DropRemembered accountId)
      (watchFront accountId).init inputs := by
  refine Machine.throughout_of_always _ (dropInvariant_next accountId) ?_ ?_ noticed
  · intro watched invariant lost idle
    have loggedOut := invariant.forgotten lost
    refine ⟨loggedOut, ?_⟩
    intro world command effect emitted
    exact usesLogin_of_loggedOut accountId idle loggedOut world command emitted
  · exact dropInvariant_of_loggedOut rfl

/-- A front lost while an account query waits leaves the actor logged in at the top of its
loop, with the ids of the lost connection; so does one lost while a cancel waits, which
returns with no answer after it. -/
theorem lostInQuery_forgotten :
    let credentials : AccountCredentials := ⟨⟨"1001"⟩, "", "9999", "", ""⟩
    let rememberedAfter inputs := (watchFront ⟨"1001"⟩).Throughout (DropRemembered ⟨"1001"⟩)
      (watchFront ⟨"1001"⟩).init
      (TradeActor.loginInputs (World.accepting {}) credentials ⟨0⟩ 1 7 ++
        inputs.map fun input => (World.accepting {}, input))
    ¬rememberedAfter [.command (.queryAccount ⟨"1001"⟩ ⟨0⟩), .event (.frontDisconnected 4097),
        .event (.queryFailed 4 90 "")] ∧
      ¬rememberedAfter
        [.command (.cancelOrder ⟨⟨"1001"⟩, ⟨"au2612"⟩, some ⟨"a1"⟩, none⟩ ⟨0⟩),
          .event (.frontDisconnected 4097)] := by
  intro credentials rememberedAfter
  constructor <;>
  · intro remembered
    have loggedOut := (remembered.runFrom (by decide) (by decide)).1
    revert loggedOut
    decide

/-- A front lost at the top of the loop is remembered. -/
theorem lostWhenIdle_remembered :
    (watchFront ⟨"1001"⟩).Throughout (DropRemembered ⟨"1001"⟩)
      (watchFront ⟨"1001"⟩).init
      (TradeActor.loginInputs (World.accepting {}) ⟨⟨"1001"⟩, "", "9999", "", ""⟩ ⟨0⟩ 1 7 ++
        [(World.accepting {}, .event (.frontDisconnected 4097))]) :=
  frontDisconnected_remembered ⟨"1001"⟩ _ (by decide)

end CtpSystem
