import CtpSystem.Trade.Steps

/-!
# What a command is answered with

Every reply of the actor belongs to one command: the one it is handling, or the one its
driver is suspended in.
-/

namespace CtpSystem

open Reactive

/-! ## Commands and their answers -/

namespace TradeSessionCommand

/-- The command is for the account, where it names one. -/
def IsFor (accountId : AccountId) : TradeSessionCommand → Prop
  | .login credentials _ => credentials.accountId = accountId
  | .placeOrder _ order _ => order.accountId = accountId
  | .cancelOrder cancel _ => cancel.accountId = accountId
  | .queryAccount queried _ | .queryPosition queried _ _ | .queryOrders queried _
  | .queryTrades queried _ => queried = accountId
  | .logout _ => True

/-- What a command of an account can be answered with: states of the account, the rows of
the query, or an error. -/
def answeredWith (accountId : AccountId) : TradeSessionCommand → Message → Bool
  | .login _ _, .accountStateUpdate state | .logout _, .accountStateUpdate state =>
      state.accountId = accountId
  | .queryAccount _ _, .queryAccountResult _
  | .queryPosition _ _ _, .queryPositionResult _ => true
  | .queryOrders _ _, .queryOrdersResult orders => orders.all (·.accountId = accountId)
  | .queryTrades _ _, .queryTradesResult trades => trades.all (·.accountId = accountId)
  | .login _ _, .error _ _ | .logout _, .error _ _ => false
  | _, .error _ _ => true
  | _, _ => false

/-- An effect of the actor, if it is a reply, answers the command. -/
def Answers (accountId : AccountId) (command : TradeSessionCommand) : Effect → Prop
  | .reply replyTo message =>
      replyTo = command.replyTo ∧ command.answeredWith accountId message = true
  | .push _ _ _ | .request _ _ | .setAccountState _ _ => True

end TradeSessionCommand

/-- The command a driver is suspended in. -/
def Driver.Serves : Driver → TradeSessionCommand → Prop
  | .tradeLogin credentials replyTo _, command => command = .login credentials replyTo
  | driver, command => ∃ rid, command.requestDriver rid = some driver

section Handlers

variable {accountId : AccountId} {world : World} {actor : TradeActor}

theorem answers_requested (command : TradeSessionCommand) {called : TradeSession.Called}
    {effect : Effect} (emitted : effect ∈ TradeActor.requested called) :
    command.Answers accountId effect := by
  rcases List.mem_map.mp emitted with ⟨sent, -, rfl⟩
  trivial

/-- A failed login is reported on its own channel, about its own account. -/
theorem answers_reportLoginFailure {credentials : AccountCredentials} {replyTo : EnvelopeTx}
    {login : Handling}
    (driven : ∀ effect ∈ login.outputs,
      (TradeSessionCommand.login credentials replyTo).Answers accountId effect) :
    ∀ effect ∈ (reportLoginFailure accountId world replyTo login).outputs,
      (TradeSessionCommand.login credentials replyTo).Answers accountId effect := by
  intro effect emitted
  rw [reportLoginFailure] at emitted
  split at emitted
  · rcases List.mem_append.mp emitted with earlier | reported
    · exact driven effect earlier
    · rw [List.mem_singleton.mp reported]
      exact ⟨rfl, decide_eq_true rfl⟩
  · exact driven effect emitted

/-- Handling a command answers no other. -/
theorem answers_handleTradeCommand {command : TradeSessionCommand}
    (about : command.IsFor accountId) :
    ∀ effect ∈ (handleTradeCommand accountId world actor command).outputs,
      command.Answers accountId effect := by
  cases ids : actor.loggedInIds with
  | none =>
      simp only [handleTradeCommand, ids, Option.isSome_none, Bool.false_eq_true, if_false]
      cases command with
      | login credentials replyTo =>
          apply answers_reportLoginFailure
          intro effect emitted
          simp only [driveTradeLogin, ids] at emitted
          split at emitted
          · cases emitted
          · rw [List.mem_singleton.mp emitted]
            exact ⟨rfl, decide_eq_true about⟩
      | placeOrder | cancelOrder | queryAccount | queryPosition | queryOrders | queryTrades =>
          intro effect emitted
          rw [List.mem_singleton.mp emitted]
          exact ⟨rfl, rfl⟩
      | logout =>
          intro effect emitted
          rw [List.mem_singleton.mp emitted]
          exact ⟨rfl, decide_eq_true rfl⟩
  | some loginIds =>
      have handled := tradeCommand_case accountId world actor command
      intro effect emitted
      generalize handleTradeCommand accountId world actor command = handling at handled emitted
      cases handled with
      | login credentials replyTo loggedOut => simp [ids] at loggedOut
      | rejected command message loggedOut => simp [ids] at loggedOut
      | known credentials replyTo ids' loggedIn =>
          rw [List.mem_singleton.mp emitted]
          exact ⟨rfl, decide_eq_true about⟩
      | logout replyTo loggedIn =>
          rw [List.mem_singleton.mp emitted]
          exact ⟨rfl, decide_eq_true rfl⟩
      | unconnected => cases emitted
      | placed => exact answers_requested _ emitted
      | unplaced clientId order replyTo session message =>
          rcases List.mem_append.mp emitted with requested | reported
          · exact answers_requested _ requested
          · rw [List.mem_singleton.mp reported]
            exact ⟨rfl, rfl⟩
      | request _ session =>
          rw [TradeActor.submit_outputs, List.nil_append] at emitted
          exact answers_requested _ emitted

/-- The login driver answers its login. -/
theorem answers_driveTradeLoginEvent {credentials : AccountCredentials}
    (about : credentials.accountId = accountId) {session : TradeSession}
    {replyTo : EnvelopeTx} {loginIds : Option (Int32 × Int32)} (event : TradeSessionEvent) :
    ∀ effect ∈ (driveTradeLoginEvent world actor session credentials replyTo loginIds
        event).outputs,
      (TradeSessionCommand.login credentials replyTo).Answers accountId effect := by
  intro effect emitted
  have told : ∀ state : AccountState, state.accountId = credentials.accountId →
      (TradeSessionCommand.login credentials replyTo).Answers accountId
        (sendAccountState replyTo state) := by
    intro state same
    exact ⟨rfl, decide_eq_true (same.trans about)⟩
  cases event with
  | frontConnected =>
      rw [driveTradeLoginEvent, TradeActor.submit_outputs] at emitted
      rcases List.mem_append.mp emitted with notified | requested
      · rw [List.mem_singleton.mp notified]
        exact told _ rfl
      · exact answers_requested _ requested
  | authenticateOk | loginOk =>
      rw [driveTradeLoginEvent, TradeActor.submit_outputs, List.nil_append] at emitted
      exact answers_requested _ emitted
  | settlementConfirmed | frontDisconnected =>
      rw [List.mem_singleton.mp emitted]
      exact told _ rfl
  | _ => cases emitted

/-- What a driver sends for a matching request id. -/
theorem answers_matching {command : TradeSessionCommand} {requestId rid : Int32}
    {message : Message} (fits : command.answeredWith accountId message = true)
    {effect : Effect}
    (emitted : effect ∈ ((if requestId = rid then some message else none).map
      (Effect.reply command.replyTo)).toList) :
    command.Answers accountId effect := by
  split at emitted
  · rw [List.mem_singleton.mp emitted]
    exact ⟨rfl, fits⟩
  · cases emitted

theorem answers_refused {command : TradeSessionCommand} {requestId rid code : Int32}
    {text : String} (refusable : command.answeredWith accountId (.error code text) = true)
    {effect : Effect}
    (emitted : effect ∈
      if requestId = rid then [sendError command.replyTo code text] else []) :
    command.Answers accountId effect := by
  split at emitted
  · rw [List.mem_singleton.mp emitted]
    exact ⟨rfl, refusable⟩
  · cases emitted

/-- A request driver answers the command it was made for. -/
theorem answers_replies {driver : Driver} {command : TradeSessionCommand} {rid : Int32}
    (serves : command.requestDriver rid = some driver) (about : command.IsFor accountId)
    (event : TradeSessionEvent) :
    ∀ effect ∈ driver.replies world actor.orderRegistry event,
      command.Answers accountId effect := by
  intro effect emitted
  cases command with
  | login | placeOrder | logout => cases serves
  | cancelOrder cancel replyTo =>
      cases serves
      cases event with
      | cancelActionFailed => exact answers_refused rfl emitted
      | _ => cases emitted
  | queryAccount queried replyTo =>
      cases serves
      cases event with
      | queryFailed => exact answers_refused rfl emitted
      | queryAccountReady => exact answers_matching rfl emitted
      | _ => cases emitted
  | queryPosition queried instrumentId replyTo =>
      cases serves
      cases event with
      | queryFailed => exact answers_refused rfl emitted
      | queryPositionsReady => exact answers_matching rfl emitted
      | _ => cases emitted
  | queryOrders queried replyTo =>
      cases serves
      cases event with
      | queryFailed => exact answers_refused rfl emitted
      | queryOrdersReady requestId orders =>
          have own : ∀ clientOf : OrderReport → ClientId,
              (orders.map fun report => orderReportToWireOrder world.clock.now report queried
                (clientOf report)).all (·.accountId = accountId) = true := by
            intro clientOf
            simp [orderReportToWireOrder, show queried = accountId from about]
          refine answers_matching ?_ emitted
          exact own _
      | _ => cases emitted
  | queryTrades queried replyTo =>
      cases serves
      cases event with
      | queryFailed => exact answers_refused rfl emitted
      | queryTradesReady requestId trades =>
          have own : (trades.map (·.intoTrade world.clock queried)).all
              (·.accountId = accountId) = true := by
            simp [TradeReport.intoTrade, show queried = accountId from about]
          refine answers_matching ?_ emitted
          exact own
      | _ => cases emitted

end Handlers

/-! ## Steps -/

section Steps

variable (accountId : AccountId) (actor : TradeActor) (world : World)

/-- A command that is taken is answered on its own channel. -/
theorem answers_command {command : TradeSessionCommand} (about : command.IsFor accountId) :
    ∀ effect ∈ (TradeActor.machine accountId).emits actor (world, .command command),
      command.Answers accountId effect := by
  intro effect emitted
  have stepped := TradeActor.step_case accountId actor (world, .command command)
  generalize (TradeActor.machine accountId).next actor (world, .command command) = next
    at stepped
  generalize (TradeActor.machine accountId).emits actor (world, .command command) = effects
    at stepped emitted
  cases stepped with
  | ignoredCommand => cases emitted
  | command _ idle => exact answers_handleTradeCommand about effect emitted

/-- What an event sends answers the command the actor is suspended in, if it answers any. -/
theorem answers_event (event : TradeSessionEvent) {effect : Effect}
    (emitted : effect ∈ (TradeActor.machine accountId).emits actor (world, .event event)) :
    (∀ replyTo message, effect ≠ .reply replyTo message) ∨
      ∃ driver, actor.driver = some driver ∧ ∀ command : TradeSessionCommand,
        driver.Serves command → command.IsFor accountId → command.Answers accountId effect := by
  have unrequested : effect ∈ reportPushes world actor.orderRegistry event →
      ∀ replyTo message, effect ≠ .reply replyTo message := by
    intro pushed replyTo message equal
    rcases mem_reportPushes.mp pushed with ⟨context, update, -, -, same⟩
    rw [equal] at same
    cases same
  have stepped := TradeActor.step_case accountId actor (world, .event event)
  generalize (TradeActor.machine accountId).next actor (world, .event event) = next at stepped
  generalize (TradeActor.machine accountId).emits actor (world, .event event) = effects
    at stepped emitted
  cases stepped with
  | ignoredEvent => cases emitted
  | idleEvent _ idle connected loggedIn =>
      left
      rcases idleEvent_outputs emitted with pushed | ⟨-, rfl⟩
      · exact unrequested pushed
      · intro replyTo message equal
        cases equal
  | requestEvent _ driver waits request =>
      rcases List.mem_append.mp emitted with pushed | replied
      · exact Or.inl (unrequested pushed)
      · right
        refine ⟨driver, waits.2, ?_⟩
        intro command serves about
        cases driver with
        | tradeLogin => cases request
        | cancelOrder | queryAccount | queryPositions | queryOrders | queryTrades =>
            rcases serves with ⟨rid, serves⟩
            exact answers_replies serves about event effect replied
  | loginEvent _ session credentials replyTo loginIds connected suspended =>
      right
      refine ⟨_, suspended, ?_⟩
      rintro command rfl about
      exact answers_reportLoginFailure (answers_driveTradeLoginEvent about event) effect emitted

/-- The command an actor is suspended in was taken by this input or before. -/
theorem serves_next (input : TradeInput) {driver : Driver}
    (suspended : ((TradeActor.machine accountId).next actor (world, input)).driver =
      some driver) :
    (∃ command, input = .command command ∧ driver.Serves command) ∨
      ∃ earlier, actor.driver = some earlier ∧
        ∀ command : TradeSessionCommand, earlier.Serves command → driver.Serves command := by
  have stepped := TradeActor.step_case accountId actor (world, input)
  generalize (TradeActor.machine accountId).next actor (world, input) = next
    at stepped suspended
  generalize (TradeActor.machine accountId).emits actor (world, input) = effects at stepped
  cases stepped with
  | ignoredCommand | ignoredEvent => exact Or.inr ⟨driver, suspended, fun _ => id⟩
  | command command idle =>
      left
      refine ⟨command, rfl, ?_⟩
      have handled := tradeCommand_case accountId world actor command
      generalize handleTradeCommand accountId world actor command = handling
        at handled suspended
      cases handled with
      | login credentials replyTo loggedOut =>
          simp only [reportLoginFailure_state, driveTradeLogin, loggedOut] at suspended
          split at suspended
          · cases suspended
          · cases suspended
            rfl
      | rejected | known | logout | unconnected | placed | unplaced => cases suspended
      | request _ session call pending field driver' loggedIn connected answered serves =>
          rcases TradeActor.submit_driver actor [] _ driver' with top | ⟨rid, waiting⟩
          · rw [top] at suspended
            cases suspended
          · rw [waiting, Option.some.injEq] at suspended
            have request := isRequest_of_requestDriver (serves rid)
            rw [suspended] at request
            have own := serves rid
            rw [suspended] at own
            cases driver with
            | tradeLogin => cases request
            | cancelOrder | queryAccount | queryPositions | queryOrders | queryTrades =>
                exact ⟨rid, own⟩
  | idleEvent event idle =>
      have kept : (handleLoggedInTradeEvent accountId world actor event).1.driver = none := by
        cases event <;> exact idle
      rw [kept] at suspended
      cases suspended
  | requestEvent event earlier waits request =>
      simp only at suspended
      split at suspended
      · cases suspended
      · cases suspended
        exact Or.inr ⟨driver, waits.2, fun _ => id⟩
  | loginEvent event session credentials replyTo loginIds connected waiting =>
      rw [reportLoginFailure_state] at suspended
      rcases driveTradeLoginEvent_driver world actor session credentials replyTo loginIds
          event with ended | ⟨ids, goesOn⟩
      · rw [ended] at suspended
        cases suspended
      · rw [goesOn] at suspended
        cases suspended
        exact Or.inr ⟨_, waiting, fun _ => id⟩

end Steps

end CtpSystem
