import CtpSystem.Trade.Steps

/-!
# Where the login ids come from

The ids of a login are remembered by the attempt that saw the `LoginOk`, and taken over
with the settlement confirmation.  The events of the session outlive an attempt: a later one
may see the confirmation and not the `LoginOk`.  A ghost value holds the ids of the latest
`LoginOk` the session delivered.
-/

namespace CtpSystem

open Reactive

/-- The ids of a `LoginOk`. -/
def TradeInput.loginOkIds : TradeInput → Option (Int32 × Int32)
  | .event (.loginOk _ frontId sessionId) => some (frontId, sessionId)
  | .event _ | .command _ => none

/-- The ids of the latest `LoginOk` the session delivered, after one step: a session that is
made or dropped starts over. -/
def recordLogin (latest : Option (Int32 × Int32)) (actor : TradeActor)
    (input : World × TradeInput) : Option (Int32 × Int32) :=
  if (actor.connects input).isSome || actor.drops input.2 then none
  else if actor.takesEvent then input.2.loginOkIds.or latest
  else latest

/-- The actor of an account, watched for the latest `LoginOk` of its session. -/
def watchLogins (accountId : AccountId) :
    Machine (TradeActor × Option (Int32 × Int32)) (World × TradeInput) Effect :=
  (TradeActor.machine accountId).observe none recordLogin

/-- The login ids are those of the latest `LoginOk` of the session. -/
def IdsReal (watched : TradeActor × Option (Int32 × Int32)) : Prop :=
  ∀ ids, watched.1.loggedInIds = some ids → watched.2 = some ids

/-- What has to hold of a step: a settlement confirmation is taken by an attempt that has
seen a `LoginOk`, or the latest one carried zeros; and a `LoginOk` taken while logged in
carries the ids the actor has. -/
def TakesRealIds (watched : TradeActor × Option (Int32 × Int32))
    (input : World × TradeInput) : Prop :=
  match input.2 with
  | .event .settlementConfirmed =>
      ∀ credentials replyTo, watched.1.session.isSome = true →
        watched.1.driver = some (.tradeLogin credentials replyTo none) →
          watched.2 = some (0, 0)
  | .event (.loginOk _ frontId sessionId) =>
      watched.1.takesEvent = true →
        ∀ ids, watched.1.loggedInIds = some ids → ids = (frontId, sessionId)
  | .event _ | .command _ => True

/-! ## The ghost value -/

section Record

variable {latest : Option (Int32 × Int32)} {actor : TradeActor} {world : World}

/-- An event the actor takes is recorded if it is a `LoginOk`. -/
theorem recordLogin_event (event : TradeSessionEvent) (takes : actor.takesEvent = true) :
    recordLogin latest actor (world, .event event) =
      (TradeInput.event event).loginOkIds.or latest := by
  simp [recordLogin, TradeActor.connects, TradeActor.drops, takes]

/-- An event the actor does not take is not. -/
theorem recordLogin_deaf (event : TradeSessionEvent) (deaf : actor.takesEvent = false) :
    recordLogin latest actor (world, .event event) = latest := by
  simp [recordLogin, TradeActor.connects, TradeActor.drops, deaf]

/-- Nor is a command the actor does not take. -/
theorem recordLogin_busy (command : TradeSessionCommand) (busy : actor.takesCommand = false) :
    recordLogin latest actor (world, .command command) = latest := by
  rw [TradeActor.takesCommand, Option.isNone_eq_false_iff] at busy
  rcases Option.isSome_iff_exists.mp busy with ⟨driver, suspended⟩
  cases command <;>
    simp [recordLogin, TradeActor.connects, TradeActor.drops, TradeActor.releases, suspended,
      TradeInput.loginOkIds]

/-- A command leaves the value unless it makes or drops the session. -/
theorem recordLogin_command (command : TradeSessionCommand) :
    recordLogin latest actor (world, .command command) =
      if (actor.connects (world, .command command)).isSome ||
          actor.drops (.command command) then none
      else latest := by
  simp [recordLogin, TradeInput.loginOkIds]

end Record

/-! ## Steps -/

/-- A login is driven by a logged-out actor, and the ids it has seen are those of the latest
`LoginOk` of the session. -/
structure LoginTracked (watched : TradeActor × Option (Int32 × Int32)) : Prop where
  loggedOut : ∀ credentials replyTo loginIds,
    watched.1.driver = some (.tradeLogin credentials replyTo loginIds) →
      watched.1.loggedInIds = none
  seen : ∀ credentials replyTo ids,
    watched.1.driver = some (.tradeLogin credentials replyTo (some ids)) →
      watched.2 = some ids

/-- The ids a login has seen after an event are those of the event, or as before. -/
theorem driveTradeLoginEvent_ids (world : World) (actor : TradeActor)
    (session : TradeSession) (credentials : AccountCredentials) (replyTo : EnvelopeTx)
    (loginIds : Option (Int32 × Int32)) (event : TradeSessionEvent)
    {credentials' : AccountCredentials} {replyTo' : EnvelopeTx}
    {later : Option (Int32 × Int32)}
    (goesOn : (driveTradeLoginEvent world actor session credentials replyTo loginIds
      event).state.driver = some (.tradeLogin credentials' replyTo' later)) :
    later = (TradeInput.event event).loginOkIds.or loginIds := by
  have submitted (effects : List Effect) (called : TradeSession.Called)
      (ids : Option (Int32 × Int32))
      (waits : (actor.submit effects called fun _ =>
        .tradeLogin credentials replyTo ids).state.driver =
          some (.tradeLogin credentials' replyTo' later)) : later = ids := by
    rcases TradeActor.submit_driver actor effects called
        (fun _ => .tradeLogin credentials replyTo ids) with top | ⟨rid, waiting⟩
    · rw [top] at waits
      cases waits
    · rw [waiting] at waits
      cases waits
      rfl
  cases event with
  | frontConnected | authenticateOk | loginOk => exact submitted _ _ _ goesOn
  | settlementConfirmed | authenticateFailed | loginFailed | settlementConfirmFailed
  | error => cases goesOn
  | frontDisconnected | heartBeatWarning | orderInsertRejected | orderReturn | tradeReturn
  | queryAccountReady | queryPositionsReady | queryOrdersReady | queryTradesReady
  | queryFailed | cancelActionOk | cancelActionFailed =>
      cases goesOn
      rfl

/-- The ids a login has seen, after an input, are those of the `LoginOk` it took or were seen
before. -/
theorem seen_of_next (accountId : AccountId) (actor : TradeActor) (input : World × TradeInput)
    {credentials : AccountCredentials} {replyTo : EnvelopeTx} {ids : Int32 × Int32}
    (handled : ((TradeActor.machine accountId).next actor input).driver =
      some (.tradeLogin credentials replyTo (some ids))) :
    input.2.loginOkIds = some ids ∨
      ∃ credentials replyTo, actor.driver = some (.tradeLogin credentials replyTo (some ids)) := by
  have stepped := TradeActor.step_case accountId actor input
  generalize (TradeActor.machine accountId).next actor input = next at stepped handled
  generalize (TradeActor.machine accountId).emits actor input = effects at stepped
  rcases input with ⟨world, input⟩
  cases stepped with
  | ignoredCommand | ignoredEvent => exact .inr ⟨credentials, replyTo, handled⟩
  | command command idle =>
      have fresh := (handleTradeCommand_login accountId world actor command handled).2.2
      cases fresh
  | idleEvent event idle connected loggedIn =>
      have top : (handleLoggedInTradeEvent accountId world actor event).1.driver = none := by
        cases event <;> exact idle
      rw [top] at handled
      cases handled
  | requestEvent event driver waits request =>
      simp only at handled
      split at handled
      · cases handled
      · cases handled
        cases request
  | loginEvent event session earlier channel loginIds connected suspended =>
      rw [reportLoginFailure_state] at handled
      have later := driveTradeLoginEvent_ids world actor session earlier channel loginIds event
        handled
      cases carried : (TradeInput.event event).loginOkIds with
      | some word =>
          rw [carried, Option.some_or] at later
          exact .inl later.symm
      | none =>
          rw [carried, Option.none_or] at later
          exact .inr ⟨earlier, channel, later ▸ suspended⟩

/-- An event the actor does not take meets the condition. -/
theorem takesRealIds_of_deaf {actor : TradeActor} {latest : Option (Int32 × Int32)}
    {world : World} (event : TradeSessionEvent) (deaf : actor.takesEvent = false) :
    TakesRealIds (actor, latest) (world, .event event) := by
  cases event with
  | settlementConfirmed =>
      intro credentials replyTo connected suspended
      simp only [TradeActor.takesEvent] at deaf connected suspended
      simp [connected, suspended] at deaf
  | loginOk tradingDay frontId sessionId =>
      intro takes
      rw [deaf] at takes
      cases takes
  | _ => trivial

/-- So does, of a logged-out actor, any event but a settlement confirmation. -/
theorem takesRealIds_of_loggedOut {actor : TradeActor} {latest : Option (Int32 × Int32)}
    {world : World} (loggedOut : actor.loggedInIds = none) (event : TradeSessionEvent)
    (unconfirmed : event ≠ .settlementConfirmed) :
    TakesRealIds (actor, latest) (world, .event event) := by
  cases event with
  | settlementConfirmed => exact absurd rfl unconfirmed
  | loginOk tradingDay frontId sessionId =>
      intro _ ids loggedIn
      rw [loggedOut] at loggedIn
      cases loggedIn
  | _ => trivial

/-- A command leaves the ids real: it keeps them and the session they came from, or it is a
logout. -/
theorem idsReal_command {accountId : AccountId} {actor : TradeActor}
    {latest : Option (Int32 × Int32)} {world : World} (real : IdsReal (actor, latest))
    (command : TradeSessionCommand) :
    IdsReal ((handleTradeCommand accountId world actor command).state,
      recordLogin latest actor (world, .command command)) := by
  intro ids later
  simp only [handleTradeCommand_loggedInIds] at later
  cases logout : command.isLogout with
  | true => simp [logout] at later
  | false =>
      rw [logout, if_neg Bool.false_ne_true] at later
      have kept : recordLogin latest actor (world, .command command) = latest := by
        rw [recordLogin_command]
        cases command with
        | logout => cases logout
        | _ => simp [TradeActor.connects, TradeActor.drops, TradeActor.releases, later]
      simp only [kept]
      exact real ids later

/-- A `LoginOk` taken outside a login leaves the ids real if it carries them. -/
theorem idsReal_loginOk_iff {actor : TradeActor} {latest : Option (Int32 × Int32)}
    {driver : Option Driver} {world : World} {tradingDay : String} {frontId sessionId : Int32}
    (takes : actor.takesEvent = true) :
    IdsReal ({ actor with driver := driver }, (TradeInput.event
        (.loginOk tradingDay frontId sessionId)).loginOkIds.or latest) ↔
      TakesRealIds (actor, latest) (world, .event (.loginOk tradingDay frontId sessionId)) := by
  constructor
  · intro real _ ids loggedIn
    exact (Option.some.inj (real ids loggedIn)).symm
  · intro carries ids loggedIn
    exact congrArg some (carries takes ids loggedIn).symm

/-- Any other event taken outside a login leaves them so where it meets the condition. -/
theorem idsReal_event_iff {actor : TradeActor} {latest : Option (Int32 × Int32)}
    (real : IdsReal (actor, latest)) (takes : actor.takesEvent = true)
    (outside : ∀ credentials replyTo loginIds,
      actor.driver ≠ some (.tradeLogin credentials replyTo loginIds))
    {driver : Option Driver} {world : World} (event : TradeSessionEvent) :
    IdsReal ({ actor with driver := driver }, (TradeInput.event event).loginOkIds.or latest) ↔
      TakesRealIds (actor, latest) (world, .event event) := by
  cases event with
  | loginOk tradingDay frontId sessionId => exact idsReal_loginOk_iff takes
  | settlementConfirmed =>
      apply iff_of_true real
      intro credentials replyTo _ suspended
      exact absurd suspended (outside credentials replyTo none)
  | _ => exact iff_of_true real trivial

/-- A settlement confirmation leaves the ids real if its login has seen the latest ones. -/
theorem idsReal_confirmed_iff {actor : TradeActor} {latest : Option (Int32 × Int32)}
    (tracked : LoginTracked (actor, latest)) {world : World} {session : TradeSession}
    {credentials : AccountCredentials} {replyTo : EnvelopeTx}
    {loginIds : Option (Int32 × Int32)} (connected : actor.session = some session)
    (suspended : actor.driver = some (.tradeLogin credentials replyTo loginIds)) :
    IdsReal ((driveTradeLoginEvent world actor session credentials replyTo loginIds
        .settlementConfirmed).state,
        (TradeInput.event .settlementConfirmed).loginOkIds.or latest) ↔
      TakesRealIds (actor, latest) (world, .event .settlementConfirmed) := by
  cases loginIds with
  | none =>
      constructor
      · intro real _ _ _ _
        exact real (0, 0) rfl
      · intro zeros ids loggedIn
        have latestZeros := zeros credentials replyTo (by rw [connected]; rfl) suspended
        cases loggedIn
        exact latestZeros
  | some seen =>
      have latestSeen := tracked.seen credentials replyTo seen suspended
      apply iff_of_true
      · intro ids loggedIn
        cases loggedIn
        exact latestSeen
      · intro _ _ _ unseen
        rw [suspended] at unseen
        cases unseen

section Step

variable (accountId : AccountId) (watched : TradeActor × Option (Int32 × Int32))
variable (input : World × TradeInput)

theorem loginTracked_next (tracked : LoginTracked watched) :
    LoginTracked ((watchLogins accountId).next watched input) := by
  rcases watched with ⟨actor, latest⟩
  rcases input with ⟨world, input⟩
  constructor
  · intro credentials replyTo loginIds handled
    exact loggedOut_of_login_next accountId tracked.loggedOut handled
  · intro credentials replyTo ids handled
    have stepped := TradeActor.step_case accountId actor (world, input)
    simp only [watchLogins, Machine.observe_next] at stepped handled ⊢
    generalize (TradeActor.machine accountId).next actor (world, input) = next at *
    generalize (TradeActor.machine accountId).emits actor (world, input) = effects at *
    cases stepped with
    | ignoredCommand command busy =>
        rw [recordLogin_busy command busy]
        exact tracked.seen credentials replyTo ids handled
    | ignoredEvent event deaf =>
        rw [recordLogin_deaf event deaf]
        exact tracked.seen credentials replyTo ids handled
    | command command idle =>
        have fresh := (handleTradeCommand_login accountId world actor command handled).2.2
        cases fresh
    | idleEvent event idle connected loggedIn =>
        have top : (handleLoggedInTradeEvent accountId world actor event).1.driver = none := by
          cases event <;> exact idle
        rw [top] at handled
        cases handled
    | requestEvent event driver waits request =>
        simp only at handled
        split at handled
        · cases handled
        · cases handled
          cases request
    | loginEvent event session credentials' replyTo' loginIds connected suspended =>
        have takes := TradeActor.takesEvent_of_suspended connected suspended
        rw [reportLoginFailure_state] at handled
        have later := driveTradeLoginEvent_ids world actor session credentials' replyTo'
          loginIds event handled
        rw [recordLogin_event event takes]
        cases carried : (TradeInput.event event).loginOkIds with
        | some word =>
            rw [carried, Option.some_or] at later
            rw [Option.some_or, later]
        | none =>
            rw [carried, Option.none_or] at later
            rw [Option.none_or]
            exact tracked.seen credentials' replyTo' ids (later ▸ suspended)

/-- From ids that are real, a step leads to ids that are exactly when it meets the
condition. -/
theorem idsReal_next_iff (tracked : LoginTracked watched) (real : IdsReal watched) :
    IdsReal ((watchLogins accountId).next watched input) ↔ TakesRealIds watched input := by
  rcases watched with ⟨actor, latest⟩
  rcases input with ⟨world, input⟩
  have stepped := TradeActor.step_case accountId actor (world, input)
  simp only [watchLogins, Machine.observe_next] at stepped ⊢
  generalize (TradeActor.machine accountId).next actor (world, input) = next at *
  generalize (TradeActor.machine accountId).emits actor (world, input) = effects at *
  cases stepped with
  | ignoredCommand command busy =>
      rw [recordLogin_busy command busy]
      exact iff_of_true real trivial
  | ignoredEvent event deaf =>
      rw [recordLogin_deaf event deaf]
      exact iff_of_true real (takesRealIds_of_deaf event deaf)
  | command command idle =>
      exact iff_of_true (idsReal_command real command) trivial
  | idleEvent event idle connected loggedIn =>
      have takes := TradeActor.takesEvent_of_loggedIn connected loggedIn
      have outside : ∀ credentials replyTo loginIds,
          actor.driver ≠ some (.tradeLogin credentials replyTo loginIds) := by
        intro credentials replyTo loginIds suspended
        rw [idle] at suspended
        cases suspended
      rw [recordLogin_event event takes]
      by_cases lost : ∃ reason, event = .frontDisconnected reason
      · rcases lost with ⟨reason, rfl⟩
        apply iff_of_true _ trivial
        intro ids later
        cases later
      · rw [handleLoggedInTradeEvent_fst accountId world actor event lost]
        exact idsReal_event_iff real takes outside event
  | requestEvent event driver waits request =>
      have takes := TradeActor.takesEvent_of_waitsIn waits
      have outside : ∀ credentials replyTo loginIds,
          actor.driver ≠ some (.tradeLogin credentials replyTo loginIds) := by
        intro credentials replyTo loginIds suspended
        rw [waits.2] at suspended
        cases suspended
        cases request
      rw [recordLogin_event event takes]
      exact idsReal_event_iff real takes outside event
  | loginEvent event session credentials replyTo loginIds connected suspended =>
      have loggedOut := tracked.loggedOut credentials replyTo loginIds suspended
      have takes := TradeActor.takesEvent_of_suspended connected suspended
      rw [recordLogin_event event takes, reportLoginFailure_state]
      by_cases confirmed : event = .settlementConfirmed
      · subst confirmed
        exact idsReal_confirmed_iff tracked connected suspended
      · have kept := driveTradeLoginEvent_loggedInIds world actor session credentials replyTo
          loginIds event confirmed
        apply iff_of_true
        · intro ids later
          simp only [kept] at later
          rw [loggedOut] at later
          cases later
        · exact takesRealIds_of_loggedOut loggedOut event confirmed

end Step

/-- In every run the login ids of the actor are those of the latest `LoginOk` of its session,
in every state, exactly when every step takes real ids. -/
theorem login_ids_real_iff (accountId : AccountId) (inputs : List (World × TradeInput)) :
    (watchLogins accountId).Throughout IdsReal (watchLogins accountId).init inputs ↔
      (watchLogins accountId).Always TakesRealIds (watchLogins accountId).init inputs := by
  have tracked : ∀ watched input, LoginTracked watched →
      LoginTracked ((watchLogins accountId).next watched input) := by
    intro watched input
    exact loginTracked_next accountId watched input
  have exact : ∀ watched input, LoginTracked watched → IdsReal watched →
      (IdsReal ((watchLogins accountId).next watched input) ↔ TakesRealIds watched input) := by
    intro watched input
    exact idsReal_next_iff accountId watched input
  apply (watchLogins accountId).throughout_iff_always tracked exact
  · constructor
    · intro credentials replyTo loginIds suspended
      cases suspended
    · intro credentials replyTo ids suspended
      cases suspended
  · intro ids loggedIn
    cases loggedIn

/-- A login fails with an error response after its `LoginOk`; the settlement confirmation
comes during the next one. -/
def TradeInput.lateConfirmation : List (World × TradeInput) :=
  [.command (.login ⟨⟨"1001"⟩, "", "9999", "", ""⟩ ⟨0⟩), .event .frontConnected,
    .event .authenticateOk, .event (.loginOk "20260101" 1 7), .event (.error 90 "" 3),
    .command (.login ⟨⟨"1001"⟩, "", "9999", "", ""⟩ ⟨0⟩), .event .settlementConfirmed].map
      fun input => (World.accepting {}, input)

/-- The actor is logged in under the ids (0, 0), which no `LoginOk` carried. -/
theorem lateConfirmation_unreal :
    ¬(watchLogins ⟨"1001"⟩).Throughout IdsReal (watchLogins ⟨"1001"⟩).init
      TradeInput.lateConfirmation := by
  intro real
  have ids := real.runFrom (0, 0) (by decide)
  revert ids
  decide

end CtpSystem
