import CtpSystem.Trade.Requests

/-!
# Steps of the trade session actor

Everything one step of the actor can be, said once.  Properties of runs are
derived from these cases and from what the handlers do to the actor's variables.
-/

namespace CtpSystem

open Reactive

namespace TradeActor

/-! ## Readiness -/

/-- A suspended handler takes events. -/
theorem takesEvent_of_waitsIn {actor : TradeActor} {driver : Driver}
    (waits : actor.WaitsIn driver) : actor.takesEvent = true := by
  rcases waits with ⟨connected, waiting⟩
  rw [takesEvent, connected, waiting]
  rfl

theorem takesEvent_of_suspended {actor : TradeActor} {session : TradeSession}
    {driver : Driver} (connected : actor.session = some session)
    (suspended : actor.driver = some driver) : actor.takesEvent = true := by
  apply takesEvent_of_waitsIn (And.intro _ suspended)
  rw [connected]
  rfl

/-- So does a logged-in actor with a session. -/
theorem takesEvent_of_loggedIn {actor : TradeActor} (connected : actor.session.isSome)
    (loggedIn : actor.loggedInIds.isSome) : actor.takesEvent = true := by
  rw [takesEvent, connected, loggedIn, Bool.or_true]
  rfl

/-! ## The cases -/

/-- The kinds of steps: the state and the effects each of them leaves. -/
inductive StepCase (accountId : AccountId) (actor : TradeActor) (world : World) :
    TradeInput → TradeActor → List Effect → Prop where
  /-- The actor is not ready for the input. -/
  | ignoredCommand (command : TradeSessionCommand) (busy : actor.takesCommand = false) :
      StepCase accountId actor world (.command command) actor []
  | ignoredEvent (event : TradeSessionEvent) (deaf : actor.takesEvent = false) :
      StepCase accountId actor world (.event event) actor []
  /-- A command is taken at the top of the loop. -/
  | command (command : TradeSessionCommand) (idle : actor.driver = none) :
      StepCase accountId actor world (.command command)
        (handleTradeCommand accountId world actor command).state
        (handleTradeCommand accountId world actor command).outputs
  /-- An event is taken at the top of the loop. -/
  | idleEvent (event : TradeSessionEvent) (idle : actor.driver = none)
      (connected : actor.session.isSome) (loggedIn : actor.loggedInIds.isSome) :
      StepCase accountId actor world (.event event)
        (handleLoggedInTradeEvent accountId world actor event).1
        (handleLoggedInTradeEvent accountId world actor event).2
  /-- An event is taken by a driver that waits for its request. -/
  | requestEvent (event : TradeSessionEvent) (driver : Driver)
      (waits : actor.WaitsIn driver) (request : driver.isRequest = true) :
      StepCase accountId actor world (.event event)
        { actor with driver := if driver.returnsOn event then none else some driver }
        (reportPushes world actor.orderRegistry event ++
          driver.replies world actor.orderRegistry event)
  /-- An event is taken by the login driver. -/
  | loginEvent (event : TradeSessionEvent) (session : TradeSession)
      (credentials : AccountCredentials) (replyTo : EnvelopeTx)
      (loginIds : Option (Int32 × Int32)) (connected : actor.session = some session)
      (suspended : actor.driver = some (.tradeLogin credentials replyTo loginIds)) :
      StepCase accountId actor world (.event event)
        (reportLoginFailure accountId world replyTo
          (driveTradeLoginEvent world actor session credentials replyTo loginIds event)).state
        (reportLoginFailure accountId world replyTo
          (driveTradeLoginEvent world actor session credentials replyTo loginIds event)).outputs

/-- Every step is one of those cases. -/
theorem step_case (accountId : AccountId) (actor : TradeActor) (input : World × TradeInput) :
    StepCase accountId actor input.1 input.2 ((machine accountId).next actor input)
      ((machine accountId).emits actor input) := by
  rcases input with ⟨world, input⟩
  cases input with
  | command command =>
      cases suspended : actor.driver with
      | some driver =>
          have ignored : actor.step accountId world (.command command) = (actor, []) := by
            simp only [step, suspended]
          simp only [Machine.next, Machine.emits, machine, ignored]
          exact .ignoredCommand command (by simp [takesCommand, suspended])
      | none =>
          have taken : actor.step accountId world (.command command) =
              ((handleTradeCommand accountId world actor command).state,
                (handleTradeCommand accountId world actor command).outputs) := by
            simp only [step, suspended]
          simp only [Machine.next, Machine.emits, machine, taken]
          exact .command command suspended
  | event event =>
      cases connected : actor.session with
      | none =>
          have ignored : actor.step accountId world (.event event) = (actor, []) := by
            simp only [step, connected]
          simp only [Machine.next, Machine.emits, machine, ignored]
          exact .ignoredEvent event (by simp [takesEvent, connected])
      | some session =>
          cases suspended : actor.driver with
          | none =>
              cases loggedIn : actor.loggedInIds.isSome with
              | false =>
                  have ignored : actor.step accountId world (.event event) = (actor, []) := by
                    simp [step, connected, suspended, loggedIn]
                  simp only [Machine.next, Machine.emits, machine, ignored]
                  exact .ignoredEvent event (by simp [takesEvent, suspended, loggedIn])
              | true =>
                  have taken : actor.step accountId world (.event event) =
                      handleLoggedInTradeEvent accountId world actor event := by
                    simp [step, connected, suspended, loggedIn]
                  simp only [Machine.next, Machine.emits, machine, taken]
                  exact .idleEvent event suspended (by simp [connected]) loggedIn
          | some driver =>
              have taken : actor.step accountId world (.event event) =
                  ((driverEvent accountId world actor session driver event).state,
                    (driverEvent accountId world actor session driver event).outputs) := by
                simp only [step, connected, suspended]
              simp only [Machine.next, Machine.emits, machine, taken]
              cases driver with
              | tradeLogin credentials replyTo loginIds =>
                  exact .loginEvent event session credentials replyTo loginIds connected
                    suspended
              | cancelOrder | queryAccount | queryPositions | queryOrders | queryTrades =>
                  rw [driverEvent_eq accountId world event rfl]
                  exact .requestEvent event _ ⟨by simp [connected], suspended⟩ rfl

end TradeActor

/-- The command is a logout. -/
def TradeSessionCommand.isLogout : TradeSessionCommand → Bool
  | .logout _ => true
  | .login _ _ | .placeOrder _ _ _ | .cancelOrder _ _ | .queryAccount _ _
  | .queryPosition _ _ _ | .queryOrders _ _ | .queryTrades _ _ => false

/-! ## What a command does -/

/-- The request asks for an answer: a query or an order action. -/
def CtpRequest.asks : CtpRequest → Bool
  | .orderAction _ | .qryTradingAccount _ _ _ | .qryInvestorPosition _ _ _ | .qryOrder _ _ _
  | .qryTrade _ _ _ => true
  | .authenticate _ _ _ _ _ | .userLogin _ _ _ _ | .settlementInfoConfirm _ _ _
  | .orderInsert _ => false

/-- The ways a command is handled at the top of the loop. -/
inductive TradeCommandCase (accountId : AccountId) (world : World) (actor : TradeActor) :
    TradeSessionCommand → Handling → Prop where
  /-- A login is started. -/
  | login (credentials : AccountCredentials) (replyTo : EnvelopeTx)
      (loggedOut : actor.loggedInIds = none) :
      TradeCommandCase accountId world actor (.login credentials replyTo)
        (reportLoginFailure accountId world replyTo
          (driveTradeLogin world actor credentials replyTo))
  /-- Anything else is answered at once while logged out. -/
  | rejected (command : TradeSessionCommand) (message : Message)
      (loggedOut : actor.loggedInIds = none)
      (other : ∀ credentials replyTo, command ≠ .login credentials replyTo) :
      TradeCommandCase accountId world actor command
        (actor.finish [.reply command.replyTo message] (.ok ()))
  /-- A login is answered at once while logged in. -/
  | known (credentials : AccountCredentials) (replyTo : EnvelopeTx) (ids : Int32 × Int32)
      (loggedIn : actor.loggedInIds = some ids) :
      TradeCommandCase accountId world actor (.login credentials replyTo)
        (actor.finish
          [sendAccountState replyTo (loggedInState world.clock credentials.accountId ids)]
          (.ok ()))
  | logout (replyTo : EnvelopeTx) (loggedIn : actor.loggedInIds.isSome) :
      TradeCommandCase accountId world actor (.logout replyTo)
        ({ actor with session := none, loggedInIds := none, orderRegistry := ∅ }.finish
          [sendAccountState replyTo (accountState world.clock accountId .disconnected)]
          (.ok ()))
  /-- A request finds no session. -/
  | unconnected (command : TradeSessionCommand) (loggedIn : actor.loggedInIds.isSome)
      (missing : actor.session = none) (requests : command.isLogout = false) :
      TradeCommandCase accountId world actor command
        (actor.finish [] (.error "trade session is not connected"))
  /-- An order is registered and inserted. -/
  | placed (clientId : ClientId) (order : OrderRequest) (replyTo : EnvelopeTx)
      (session : TradeSession) (rid : Int32) (loggedIn : actor.loggedInIds.isSome)
      (connected : actor.session = some session)
      (accepted : (session.insertOrder world.rc order).result = .ok rid) :
      TradeCommandCase accountId world actor (.placeOrder clientId order replyTo)
        ((registerAndInsertOrder world actor session clientId order).1.finish
          (TradeActor.requested (session.insertOrder world.rc order)) (.ok ()))
  /-- An order is registered and its insert fails. -/
  | unplaced (clientId : ClientId) (order : OrderRequest) (replyTo : EnvelopeTx)
      (session : TradeSession) (message : String) (loggedIn : actor.loggedInIds.isSome)
      (connected : actor.session = some session)
      (failed : (session.insertOrder world.rc order).result = .error message) :
      TradeCommandCase accountId world actor (.placeOrder clientId order replyTo)
        ((registerAndInsertOrder world actor session clientId order).1.finish
          (TradeActor.requested (session.insertOrder world.rc order) ++
            [sendError replyTo (-10) message])
          (.error message))
  /-- A request that asks for an answer is submitted. -/
  | request (command : TradeSessionCommand) (session : TradeSession) (call : String)
      (pending : Option PendingQuery) (field : Int32 → CtpRequest) (driver : Int32 → Driver)
      (loggedIn : actor.loggedInIds.isSome) (connected : actor.session = some session)
      (answered : command.awaitsAnswer = true)
      (serves : ∀ rid, command.requestDriver rid = some (driver rid))
      (asks : ∀ rid, (field rid).asks = true) :
      TradeCommandCase accountId world actor command
        (actor.submit [] (session.request world.rc call pending field) driver)

/-- Every command is handled in one of those ways. -/
theorem tradeCommand_case (accountId : AccountId) (world : World) (actor : TradeActor)
    (command : TradeSessionCommand) :
    TradeCommandCase accountId world actor command
      (handleTradeCommand accountId world actor command) := by
  cases ids : actor.loggedInIds with
  | none =>
      simp only [handleTradeCommand, ids, Option.isSome_none, Bool.false_eq_true, if_false]
      cases command with
      | login credentials replyTo => exact .login credentials replyTo ids
      | placeOrder | cancelOrder | queryAccount | queryPosition | queryOrders | queryTrades
      | logout => exact .rejected _ _ ids (by simp)
  | some ids' =>
      have loggedIn : actor.loggedInIds.isSome := by rw [ids, Option.isSome_some]
      simp only [handleTradeCommand, ids, Option.isSome_some, if_true]
      cases command with
      | login credentials replyTo =>
          simp only [handleLoggedInTradeCommand, ids]
          exact .known credentials replyTo ids' ids
      | logout replyTo => exact .logout replyTo loggedIn
      | placeOrder clientId order replyTo =>
          cases connected : actor.session with
          | none =>
              simp only [handleLoggedInTradeCommand, withSession, connected]
              exact .unconnected _ loggedIn connected rfl
          | some session =>
              simp only [handleLoggedInTradeCommand, withSession, connected,
                registerAndInsertOrder]
              cases outcome : (session.insertOrder world.rc order).result with
              | error message =>
                  exact .unplaced clientId order replyTo session message loggedIn connected
                    outcome
              | ok rid =>
                  exact .placed clientId order replyTo session rid loggedIn connected outcome
      | cancelOrder | queryAccount | queryPosition | queryOrders | queryTrades =>
          cases connected : actor.session with
          | none =>
              simp only [handleLoggedInTradeCommand, ids, withSession, connected]
              exact .unconnected _ loggedIn connected rfl
          | some session =>
              simp only [handleLoggedInTradeCommand, ids, withSession, connected]
              exact .request _ session _ _ _ _ loggedIn connected rfl (fun _ => rfl)
                (fun _ => rfl)

/-! ## What the handlers do to the actor's variables -/

/-- At the top of the loop only the loss of the front changes a variable. -/
theorem handleLoggedInTradeEvent_fst (accountId : AccountId) (world : World)
    (actor : TradeActor) (event : TradeSessionEvent)
    (kept : ¬∃ reason, event = .frontDisconnected reason) :
    (handleLoggedInTradeEvent accountId world actor event).1 = actor := by
  cases event with
  | frontDisconnected reason => exact absurd ⟨reason, rfl⟩ kept
  | _ => rfl

section Login

variable (accountId : AccountId) (world : World) (actor : TradeActor)
variable (session : TradeSession) (credentials : AccountCredentials)
variable (replyTo : EnvelopeTx) (loginIds : Option (Int32 × Int32))
variable (event : TradeSessionEvent)

@[simp] theorem reportLoginFailure_state (login : Handling) :
    (reportLoginFailure accountId world replyTo login).state = login.state := by
  rw [reportLoginFailure]
  split <;> rfl

/-- A login never touches the registry. -/
@[simp] theorem driveTradeLoginEvent_orderRegistry :
    (driveTradeLoginEvent world actor session credentials replyTo loginIds
      event).state.orderRegistry = actor.orderRegistry := by
  cases event <;> simp [driveTradeLoginEvent]

/-- Only the settlement confirmation logs in. -/
theorem driveTradeLoginEvent_loggedInIds (confirmation : event ≠ .settlementConfirmed) :
    (driveTradeLoginEvent world actor session credentials replyTo loginIds
      event).state.loggedInIds = actor.loggedInIds := by
  cases event <;> simp_all [driveTradeLoginEvent]

/-- Starting a login leaves ids and registry as they are. -/
theorem driveTradeLogin_frame :
    (driveTradeLogin world actor credentials replyTo).state.loggedInIds =
        actor.loggedInIds ∧
      (driveTradeLogin world actor credentials replyTo).state.orderRegistry =
        actor.orderRegistry := by
  cases ids : actor.loggedInIds with
  | some ids => simp [driveTradeLogin, ids]
  | none =>
      simp only [driveTradeLogin, ids]
      split <;> simp [ids]

end Login

section Commands

variable (accountId : AccountId) (world : World) (actor : TradeActor)
variable (command : TradeSessionCommand)

/-- A logout drops the login ids; every other command keeps them. -/
theorem handleTradeCommand_loggedInIds :
    (handleTradeCommand accountId world actor command).state.loggedInIds =
      if command.isLogout then none else actor.loggedInIds := by
  have handled := tradeCommand_case accountId world actor command
  generalize handleTradeCommand accountId world actor command = handling at handled ⊢
  cases handled with
  | login credentials replyTo loggedOut =>
      rw [reportLoginFailure_state]
      exact (driveTradeLogin_frame world actor credentials replyTo).1
  | rejected _ message loggedOut => rw [TradeActor.finish_loggedInIds, loggedOut, ite_self]
  | known | logout | placed | unplaced => rfl
  | unconnected _ loggedIn missing requests => simp [requests]
  | request _ session call pending field driver loggedIn connected answered =>
      rw [TradeActor.submit_loggedInIds]
      cases command <;> first | rfl | cases answered

/-- A login driver is entered only by a login taken while logged out. -/
theorem handleTradeCommand_login {credentials : AccountCredentials} {replyTo : EnvelopeTx}
    {loginIds : Option (Int32 × Int32)}
    (entered : (handleTradeCommand accountId world actor command).state.driver =
      some (.tradeLogin credentials replyTo loginIds)) :
    actor.loggedInIds = none ∧ command = .login credentials replyTo ∧ loginIds = none := by
  have handled := tradeCommand_case accountId world actor command
  generalize handleTradeCommand accountId world actor command = handling at handled entered
  cases handled with
  | login credentials replyTo loggedOut =>
      simp only [reportLoginFailure_state, driveTradeLogin, loggedOut] at entered
      split at entered
      · cases entered
      · cases entered
        exact ⟨loggedOut, rfl, rfl⟩
  | rejected | known | logout | unconnected | placed | unplaced => cases entered
  | request _ session call pending field driver loggedIn connected answered serves =>
      rcases TradeActor.submit_driver actor [] _ driver with top | ⟨rid, waiting⟩
      · rw [top] at entered
        cases entered
      · rw [waiting, Option.some.injEq] at entered
        have request := isRequest_of_requestDriver (serves rid)
        rw [entered] at request
        cases request

/-- What a `PlaceOrder` of a logged-in actor emits: the insert, and an error where
it does not get through. -/
theorem handleTradeCommand_placeOrder_outputs {actor : TradeActor} {session : TradeSession}
    (loggedIn : actor.loggedInIds.isSome) (connected : actor.session = some session)
    (clientId : ClientId) (order : OrderRequest) (replyTo : EnvelopeTx) :
    (handleTradeCommand accountId world actor (.placeOrder clientId order replyTo)).outputs =
      TradeActor.requested (session.insertOrder world.rc order) ++
        match (session.insertOrder world.rc order).result with
        | .error message => [sendError replyTo (-10) message]
        | .ok _ => [] := by
  simp only [handleTradeCommand, loggedIn, if_true, handleLoggedInTradeCommand, withSession,
    connected, registerAndInsertOrder]
  cases (session.insertOrder world.rc order).result with
  | error message => rfl
  | ok rid => exact (List.append_nil _).symm

/-- Logged out, a command is only answered. -/
theorem handleTradeCommand_loggedOut {actor : TradeActor} {command : TradeSessionCommand}
    (loggedOut : actor.loggedInIds = none) {effect : Effect}
    (emitted : effect ∈ (handleTradeCommand accountId world actor command).outputs) :
    ∃ message, effect = .reply command.replyTo message := by
  simp only [handleTradeCommand, loggedOut, Option.isSome_none, Bool.false_eq_true,
    if_false] at emitted
  cases command with
  | login credentials replyTo =>
      simp only [handleLoggedOutTradeCommand, driveTradeLogin, loggedOut,
        reportLoginFailure] at emitted
      split at emitted <;> split at emitted <;>
        simp_all [TradeActor.finish, TradeActor.waitIn, sendAccountState,
          TradeSessionCommand.replyTo]
  | _ =>
      simp only [handleLoggedOutTradeCommand, TradeActor.finish_outputs,
        List.mem_singleton] at emitted
      exact ⟨_, emitted⟩

/-- A command is answered on its own channel, or makes requests. -/
theorem handleTradeCommand_outputs {effect : Effect}
    (emitted : effect ∈ (handleTradeCommand accountId world actor command).outputs) :
    (∃ message, effect = .reply command.replyTo message) ∨
      ∃ request rc, effect = .request request rc := by
  have requests : ∀ called : TradeSession.Called, effect ∈ TradeActor.requested called →
      ∃ request rc, effect = .request request rc := by
    intro called member
    rcases List.mem_map.mp member with ⟨sent, -, rfl⟩
    exact ⟨sent.1, sent.2, rfl⟩
  have handled := tradeCommand_case accountId world actor command
  generalize same : handleTradeCommand accountId world actor command = handling
    at handled emitted
  cases handled with
  | login credentials replyTo loggedOut =>
      exact Or.inl (handleTradeCommand_loggedOut accountId world loggedOut (same ▸ emitted))
  | rejected | known | logout => exact Or.inl ⟨_, List.mem_singleton.mp emitted⟩
  | unconnected => cases emitted
  | placed => exact Or.inr (requests _ emitted)
  | unplaced clientId order replyTo session message =>
      rcases List.mem_append.mp emitted with requested | reported
      · exact Or.inr (requests _ requested)
      · exact Or.inl ⟨_, List.mem_singleton.mp reported⟩
  | request =>
      rw [TradeActor.submit_outputs, List.nil_append] at emitted
      exact Or.inr (requests _ emitted)

end Commands

/-- At the top of the loop an event pushes what it reports, or is the loss of the front. -/
theorem idleEvent_outputs {accountId : AccountId} {world : World} {actor : TradeActor}
    {event : TradeSessionEvent} {effect : Effect}
    (emitted : effect ∈ (handleLoggedInTradeEvent accountId world actor event).2) :
    effect ∈ reportPushes world actor.orderRegistry event ∨
      (∃ reason, event = .frontDisconnected reason) ∧
        effect = .setAccountState accountId .disconnected := by
  cases event with
  | frontDisconnected reason => exact Or.inr ⟨⟨reason, rfl⟩, List.mem_singleton.mp emitted⟩
  | orderReturn | tradeReturn => exact Or.inl emitted
  | _ => exact absurd emitted List.not_mem_nil

/-- A request driver answers on the channel of its request. -/
theorem Driver.mem_replies {world : World} {orderRegistry : OrderRegistry} {driver : Driver}
    {event : TradeSessionEvent} {effect : Effect}
    (emitted : effect ∈ driver.replies world orderRegistry event) :
    ∃ replyTo message, effect = .reply replyTo message := by
  have answered : ∀ (answer : Option Message) (replyTo : EnvelopeTx),
      effect ∈ (answer.map (Effect.reply replyTo)).toList →
        ∃ replyTo message, effect = .reply replyTo message := by
    intro answer replyTo member
    rcases Option.map_eq_some_iff.mp (Option.mem_toList.mp member) with ⟨message, -, equal⟩
    exact ⟨replyTo, message, equal.symm⟩
  have refused : ∀ (asked : Prop) [Decidable asked] (replyTo : EnvelopeTx) (code : Int32)
      (message : String), effect ∈ (if asked then [sendError replyTo code message] else []) →
        ∃ replyTo message, effect = .reply replyTo message := by
    intro asked _ replyTo code message member
    split at member
    · exact ⟨replyTo, _, List.mem_singleton.mp member⟩
    · simp at member
  cases driver with
  | tradeLogin => simp [replies] at emitted
  | cancelOrder =>
      cases event with
      | cancelActionFailed => exact refused _ _ _ _ emitted
      | _ => simp [replies] at emitted
  | queryAccount | queryPositions | queryOrders | queryTrades =>
      cases event with
      | queryFailed => exact refused _ _ _ _ emitted
      | _ =>
          simp only [replies] at emitted
          exact answered _ _ emitted

/-- A login event is answered on the channel of the login, or makes requests. -/
theorem loginEvent_outputs {accountId : AccountId} {world : World} {actor : TradeActor}
    {session : TradeSession} {credentials : AccountCredentials} {replyTo : EnvelopeTx}
    {loginIds : Option (Int32 × Int32)} {event : TradeSessionEvent} {effect : Effect}
    (emitted : effect ∈ (reportLoginFailure accountId world replyTo
      (driveTradeLoginEvent world actor session credentials replyTo loginIds
        event)).outputs) :
    (∃ message, effect = .reply replyTo message) ∨
      ∃ request rc, effect = .request request rc := by
  have driven : ∀ effect ∈ (driveTradeLoginEvent world actor session credentials replyTo
      loginIds event).outputs,
      (∃ message, effect = .reply replyTo message) ∨
        ∃ request rc, effect = .request request rc := by
    intro effect member
    cases event with
    | frontConnected | authenticateOk | loginOk =>
        simp only [driveTradeLoginEvent, TradeActor.submit_outputs, List.mem_append,
          List.mem_singleton, List.not_mem_nil, false_or, TradeActor.requested,
          List.mem_map] at member
        try rcases member with rfl | member
        all_goals first
          | exact Or.inl ⟨_, rfl⟩
          | rcases member with ⟨sent, -, rfl⟩
            exact Or.inr ⟨_, _, rfl⟩
    | settlementConfirmed | frontDisconnected =>
        exact Or.inl ⟨_, List.mem_singleton.mp member⟩
    | _ => simp [driveTradeLoginEvent] at member
  rw [reportLoginFailure] at emitted
  split at emitted
  · rcases List.mem_append.mp emitted with earlier | reported
    · exact driven effect earlier
    · exact Or.inl ⟨_, List.mem_singleton.mp reported⟩
  · exact driven effect emitted

/-! ## The session -/

/-- A logged-in actor has a session. -/
def TradeActor.Connected (actor : TradeActor) : Prop :=
  actor.loggedInIds.isSome → actor.session.isSome

/-- A login event leaves a session. -/
theorem driveTradeLoginEvent_session (world : World) {actor : TradeActor}
    {session : TradeSession} (connected : actor.session = some session)
    (credentials : AccountCredentials) (replyTo : EnvelopeTx)
    (loginIds : Option (Int32 × Int32)) (event : TradeSessionEvent) :
    (driveTradeLoginEvent world actor session credentials replyTo loginIds
      event).state.session.isSome := by
  cases event <;> simp [driveTradeLoginEvent, connected]

/-- A command leaves a logged-in actor with a session. -/
theorem connected_command (accountId : AccountId) (world : World) {actor : TradeActor}
    (connected : actor.Connected) (command : TradeSessionCommand) :
    (handleTradeCommand accountId world actor command).state.Connected := by
  have handled := tradeCommand_case accountId world actor command
  generalize handleTradeCommand accountId world actor command = handling at handled ⊢
  cases handled with
  | login credentials replyTo loggedOut =>
      intro still
      rw [reportLoginFailure_state,
        (driveTradeLogin_frame world actor credentials replyTo).1, loggedOut] at still
      cases still
  | rejected | known | unconnected => exact connected
  | logout =>
      intro still
      cases still
  | placed | unplaced => exact fun _ => rfl
  | request =>
      intro _
      rw [TradeActor.submit_session, Option.isSome_some]

/-- Every step leaves a logged-in actor with a session. -/
theorem connected_next (accountId : AccountId) (actor : TradeActor)
    (input : World × TradeInput) (connected : actor.Connected) :
    ((TradeActor.machine accountId).next actor input).Connected := by
  rcases input with ⟨world, input⟩
  have stepped := TradeActor.step_case accountId actor (world, input)
  generalize (TradeActor.machine accountId).next actor (world, input) = next at stepped ⊢
  generalize (TradeActor.machine accountId).emits actor (world, input) = effects at stepped
  cases stepped with
  | ignoredCommand | ignoredEvent | requestEvent => exact connected
  | command command idle => exact connected_command accountId world connected command
  | idleEvent event idle present loggedIn =>
      intro _
      cases event <;> exact present
  | loginEvent event session credentials replyTo loginIds present suspended =>
      intro _
      rw [reportLoginFailure_state]
      exact driveTradeLoginEvent_session world present credentials replyTo loginIds event

/-! ## The registry -/

namespace TradeActor

/-- The order a command puts into the registry: only a logged-in actor with a
session registers, and it does so before the insert is tried. -/
def registers (actor : TradeActor) :
    TradeSessionCommand → Option (ClientId × OrderRequest × EnvelopeTx)
  | .placeOrder clientId order replyTo =>
      if actor.driver.isNone && actor.loggedInIds.isSome && actor.session.isSome then
        some (clientId, order, replyTo)
      else none
  | _ => none

/-- A logout of a logged-in actor clears the registry. -/
def releases (actor : TradeActor) : TradeSessionCommand → Bool
  | .logout _ => actor.driver.isNone && actor.loggedInIds.isSome
  | _ => false

/-- The registry after a command. -/
theorem orderRegistry_next_command (accountId : AccountId) (actor : TradeActor)
    (world : World) (command : TradeSessionCommand) :
    ((machine accountId).next actor (world, .command command)).orderRegistry =
      match actor.registers command with
      | some (clientId, order, _) =>
          actor.orderRegistry.insert (orderContext world.clock clientId order).orderRefKey
            (orderContext world.clock clientId order)
      | none => if actor.releases command then ∅ else actor.orderRegistry := by
  cases suspended : actor.driver with
  | some driver =>
      have ignored : (machine accountId).next actor (world, .command command) = actor := by
        simp [Machine.next, machine, step, suspended]
      rw [ignored]
      cases command <;> simp [registers, releases, suspended]
  | none =>
      have taken : (machine accountId).next actor (world, .command command) =
          (handleTradeCommand accountId world actor command).state := by
        simp [Machine.next, machine, step, suspended]
      rw [taken]
      have handled := tradeCommand_case accountId world actor command
      generalize handleTradeCommand accountId world actor command = handling at handled ⊢
      cases handled with
      | login credentials replyTo loggedOut =>
          rw [reportLoginFailure_state]
          exact (driveTradeLogin_frame world actor credentials replyTo).2
      | rejected _ message loggedOut =>
          cases command <;> simp [registers, releases, loggedOut]
      | known => rfl
      | logout replyTo loggedIn => simp [registers, releases, suspended, loggedIn]
      | unconnected _ loggedIn missing requests =>
          cases command with
          | logout => cases requests
          | _ => simp [registers, releases, missing]
      | placed clientId order replyTo session rid loggedIn connected
      | unplaced clientId order replyTo session message loggedIn connected =>
          simp [registers, suspended, loggedIn, connected, registerAndInsertOrder]
      | request _ session call pending field driver loggedIn connected answered =>
          rw [submit_orderRegistry]
          cases command <;> first | rfl | cases answered

/-- No event touches the registry. -/
theorem orderRegistry_next_event (accountId : AccountId) (actor : TradeActor)
    (world : World) (event : TradeSessionEvent) :
    ((machine accountId).next actor (world, .event event)).orderRegistry =
      actor.orderRegistry := by
  have stepped := step_case accountId actor (world, .event event)
  generalize (machine accountId).next actor (world, .event event) = next at stepped ⊢
  generalize (machine accountId).emits actor (world, .event event) = effects at stepped
  cases stepped with
  | ignoredEvent | requestEvent => rfl
  | idleEvent => cases event <;> rfl
  | loginEvent => rw [reportLoginFailure_state, driveTradeLoginEvent_orderRegistry]

end TradeActor

/-! ## The login -/

namespace TradeActor

/-- The ids of the login an input completes. -/
def completes (actor : TradeActor) : TradeInput → Option (Int32 × Int32)
  | .event .settlementConfirmed =>
      if actor.session.isSome then
        actor.driver.bind fun driver =>
          match driver with
          | .tradeLogin _ _ loginIds => some (loginIds.getD (0, 0))
          | _ => none
      else none
  | _ => none

/-- An input that ends the login: a logout, or the loss of the front, taken at the top
of the loop. -/
def endsLogin (actor : TradeActor) : TradeInput → Bool
  | .command command => command.isLogout && actor.driver.isNone
  | .event (.frontDisconnected _) => actor.session.isSome && actor.driver.isNone
  | .event _ => false

theorem completes_of_not_confirmed (actor : TradeActor) {event : TradeSessionEvent}
    (other : event ≠ .settlementConfirmed) : actor.completes (.event event) = none := by
  cases event <;> first | rfl | exact absurd rfl other

/-- Only the confirmation of the settlement completes a login, in the login driver. -/
theorem completes_inversion {actor : TradeActor} {input : TradeInput} {ids : Int32 × Int32}
    (completed : actor.completes input = some ids) :
    ∃ session credentials replyTo loginIds, input = .event .settlementConfirmed ∧
      actor.session = some session ∧
      actor.driver = some (.tradeLogin credentials replyTo loginIds) ∧
      ids = loginIds.getD (0, 0) := by
  cases input with
  | command command => cases completed
  | event event =>
      by_cases confirmed : event = .settlementConfirmed
      · subst confirmed
        simp only [completes, Option.ite_none_right_eq_some, Option.bind_eq_some_iff]
          at completed
        rcases completed with ⟨connected, driver, suspended, read⟩
        rcases Option.isSome_iff_exists.mp connected with ⟨session, present⟩
        cases driver with
        | tradeLogin credentials replyTo loginIds =>
            exact ⟨session, credentials, replyTo, loginIds, rfl, present, suspended,
              (Option.some.inj read).symm⟩
        | cancelOrder | queryAccount | queryPositions | queryOrders | queryTrades =>
            cases read
      · rw [completes_of_not_confirmed actor confirmed] at completed
        cases completed

/-- A completed login leaves the actor at the top of its loop. -/
theorem driver_next_of_completes (accountId : AccountId) (world : World)
    {actor : TradeActor} {input : TradeInput} {ids : Int32 × Int32}
    (completed : actor.completes input = some ids) :
    ((machine accountId).next actor (world, input)).driver = none := by
  rcases completes_inversion completed with
    ⟨session, credentials, replyTo, loginIds, rfl, present, suspended, -⟩
  simp [Machine.next, machine, step, present, suspended, driverEvent, driveTradeLoginEvent]

/-- The login ids after an input: those of a login it completes, none where it ends the
login, and otherwise the ids as they were. -/
theorem loggedInIds_next (accountId : AccountId) (actor : TradeActor)
    (input : World × TradeInput) :
    ((machine accountId).next actor input).loggedInIds =
      (actor.completes input.2).or
        (if actor.endsLogin input.2 then none else actor.loggedInIds) := by
  rcases input with ⟨world, input⟩
  have stepped := step_case accountId actor (world, input)
  generalize (machine accountId).next actor (world, input) = next at stepped ⊢
  generalize (machine accountId).emits actor (world, input) = effects at stepped
  cases stepped with
  | ignoredCommand command busy =>
      rw [takesCommand] at busy
      simp [completes, endsLogin, busy]
  | ignoredEvent event deaf =>
      rw [takesEvent] at deaf
      cases event with
      | settlementConfirmed =>
          cases connected : actor.session <;> simp_all [completes, endsLogin]
      | frontDisconnected reason =>
          cases connected : actor.session <;> simp_all [completes, endsLogin]
      | _ => simp [completes, endsLogin]
  | command command idle =>
      rw [handleTradeCommand_loggedInIds]
      simp [completes, endsLogin, idle]
  | idleEvent event idle connected loggedIn =>
      cases event with
      | frontDisconnected reason =>
          simp [completes, endsLogin, connected, idle, handleLoggedInTradeEvent]
      | _ => simp [completes, endsLogin, idle, handleLoggedInTradeEvent]
  | requestEvent event driver waits request =>
      cases event with
      | settlementConfirmed =>
          cases driver <;> simp_all [completes, endsLogin, Driver.isRequest, waits.2]
      | _ => simp [completes, endsLogin, waits.2]
  | loginEvent event session credentials replyTo loginIds connected suspended =>
      rw [reportLoginFailure_state]
      by_cases confirmed : event = .settlementConfirmed
      · subst confirmed
        simp [completes, endsLogin, connected, suspended, driveTradeLoginEvent]
      · rw [driveTradeLoginEvent_loggedInIds world actor session credentials replyTo loginIds
          event confirmed, completes_of_not_confirmed actor confirmed]
        cases event <;> simp [endsLogin, suspended]

end TradeActor

/-! ## Where a session comes from -/

/-- What a session was made with. -/
def TradeSession.setup (session : TradeSession) : TradeSessionConfig × Option TraderApi :=
  (session.config, session.api)

@[simp] theorem TradeSession.request_setup (session : TradeSession) (rc : Int32)
    (call : String) (pending : Option PendingQuery) (field : Int32 → CtpRequest) :
    (session.request rc call pending field).session.setup = session.setup := by
  cases loaded : session.api <;> simp [request, setup, loaded]

namespace TradeActor

/-- The credentials of a login that connects a new session: one taken while logged out,
with no session left. -/
def connects (actor : TradeActor) (input : World × TradeInput) : Option AccountCredentials :=
  match input.2 with
  | .command (.login credentials _) =>
      if actor.driver.isNone && actor.loggedInIds.isNone && actor.session.isNone &&
          input.1.connect.isOk then
        some credentials
      else none
  | _ => none

/-- A logout of a logged-in actor drops the session. -/
def drops (actor : TradeActor) : TradeInput → Bool
  | .command command => actor.releases command
  | .event _ => false

end TradeActor

/-- The session after a command, taken at the top of the loop. -/
theorem handleTradeCommand_setup (accountId : AccountId) (world : World) {actor : TradeActor}
    (idle : actor.driver = none) (command : TradeSessionCommand) :
    (handleTradeCommand accountId world actor command).state.session.map
        TradeSession.setup =
      ((actor.connects (world, .command command)).map fun credentials =>
          (tradeSessionConfig credentials, some {})).or
        (if actor.drops (.command command) then none
          else actor.session.map TradeSession.setup) := by
  have handled := tradeCommand_case accountId world actor command
  generalize handleTradeCommand accountId world actor command = handling at handled ⊢
  cases handled with
  | login credentials replyTo loggedOut =>
      simp only [reportLoginFailure_state, driveTradeLogin, loggedOut]
      cases present : actor.session with
      | some session =>
          simp [TradeActor.connects, TradeActor.drops, TradeActor.releases, present]
      | none =>
          cases connected : world.connect with
          | error message =>
              simp [TradeActor.connects, TradeActor.drops, TradeActor.releases, present,
                connected, TradeSession.connect, Except.isOk, Except.toBool]
          | ok _ =>
              simp [TradeActor.connects, idle, loggedOut, present, connected,
                TradeSession.connect, TradeSession.new, TradeSession.setup, Except.isOk,
                Except.toBool]
  | rejected _ message loggedOut other =>
      cases command with
      | login credentials replyTo => exact absurd rfl (other credentials replyTo)
      | _ => simp [TradeActor.connects, TradeActor.drops, TradeActor.releases, loggedOut]
  | known credentials replyTo ids loggedIn =>
      simp [TradeActor.connects, TradeActor.drops, TradeActor.releases, loggedIn]
  | logout replyTo loggedIn =>
      simp [TradeActor.connects, TradeActor.drops, TradeActor.releases, idle, loggedIn]
  | unconnected _ loggedIn missing requests =>
      have ids : actor.loggedInIds ≠ none := Option.isSome_iff_ne_none.mp loggedIn
      cases command with
      | logout => cases requests
      | _ => simp [TradeActor.connects, TradeActor.drops, TradeActor.releases, missing, ids]
  | placed clientId order replyTo session _ _ connected
  | unplaced clientId order replyTo session _ _ connected =>
      simp [TradeActor.connects, TradeActor.drops, TradeActor.releases, connected,
        registerAndInsertOrder, TradeSession.insertOrder]
  | request _ session call pending field driver loggedIn connected answered =>
      rw [TradeActor.submit_session, Option.map_some, TradeSession.request_setup]
      cases command with
      | login | placeOrder | logout => cases answered
      | _ => simp [TradeActor.connects, TradeActor.drops, TradeActor.releases, connected]

/-- A login event keeps the session it was made with. -/
theorem driveTradeLoginEvent_setup (world : World) {actor : TradeActor}
    {session : TradeSession} (connected : actor.session = some session)
    (credentials : AccountCredentials) (replyTo : EnvelopeTx)
    (loginIds : Option (Int32 × Int32)) (event : TradeSessionEvent) :
    (driveTradeLoginEvent world actor session credentials replyTo loginIds
      event).state.session.map TradeSession.setup = some session.setup := by
  cases event <;>
    simp [driveTradeLoginEvent, connected, TradeSession.authenticate, TradeSession.login,
      TradeSession.confirmSettlement]

/-- The session after an input: one that a login connects, none after a logout, and
otherwise the one there was. -/
theorem setup_next (accountId : AccountId) (actor : TradeActor)
    (input : World × TradeInput) :
    ((TradeActor.machine accountId).next actor input).session.map TradeSession.setup =
      ((actor.connects input).map fun credentials =>
          (tradeSessionConfig credentials, some {})).or
        (if actor.drops input.2 then none else actor.session.map TradeSession.setup) := by
  rcases input with ⟨world, input⟩
  have stepped := TradeActor.step_case accountId actor (world, input)
  generalize (TradeActor.machine accountId).next actor (world, input) = next at stepped ⊢
  generalize (TradeActor.machine accountId).emits actor (world, input) = effects at stepped
  cases stepped with
  | ignoredCommand command busy =>
      rw [TradeActor.takesCommand] at busy
      cases command <;> simp [TradeActor.connects, TradeActor.drops, TradeActor.releases, busy]
  | ignoredEvent => rfl
  | command command idle => exact handleTradeCommand_setup accountId world idle command
  | idleEvent event => cases event <;> rfl
  | requestEvent => rfl
  | loginEvent event session credentials replyTo loginIds connected suspended =>
      rw [reportLoginFailure_state, driveTradeLoginEvent_setup world connected, connected]
      rfl

/-! ## Which login is being handled -/

/-- A login event ends the login or goes on with it. -/
theorem driveTradeLoginEvent_driver (world : World) (actor : TradeActor)
    (session : TradeSession) (credentials : AccountCredentials) (replyTo : EnvelopeTx)
    (loginIds : Option (Int32 × Int32)) (event : TradeSessionEvent) :
    (driveTradeLoginEvent world actor session credentials replyTo loginIds
        event).state.driver = none ∨
      ∃ ids, (driveTradeLoginEvent world actor session credentials replyTo loginIds
        event).state.driver = some (.tradeLogin credentials replyTo ids) := by
  have submitted (effects : List Effect) (called : TradeSession.Called)
      (ids : Option (Int32 × Int32)) :
      (actor.submit effects called fun _ =>
          .tradeLogin credentials replyTo ids).state.driver = none ∨
        ∃ ids', (actor.submit effects called fun _ =>
          .tradeLogin credentials replyTo ids).state.driver =
            some (.tradeLogin credentials replyTo ids') := by
    rcases TradeActor.submit_driver actor effects called
        (fun _ => .tradeLogin credentials replyTo ids) with top | ⟨rid, waiting⟩
    · exact Or.inl top
    · exact Or.inr ⟨ids, waiting⟩
  cases event with
  | frontConnected | authenticateOk | loginOk => exact submitted _ _ _
  | settlementConfirmed | authenticateFailed | loginFailed | settlementConfirmFailed
  | error => exact Or.inl rfl
  | frontDisconnected | heartBeatWarning | orderInsertRejected | orderReturn | tradeReturn
  | queryAccountReady | queryPositionsReady | queryOrdersReady | queryTradesReady
  | queryFailed | cancelActionOk | cancelActionFailed => exact Or.inr ⟨loginIds, rfl⟩

/-- The login that is being handled was taken by this input or is handled already. -/
theorem login_of_next (accountId : AccountId) (actor : TradeActor)
    (input : World × TradeInput) {credentials : AccountCredentials} {replyTo : EnvelopeTx}
    {loginIds : Option (Int32 × Int32)}
    (handled : ((TradeActor.machine accountId).next actor input).driver =
      some (.tradeLogin credentials replyTo loginIds)) :
    (actor.driver = none ∧ actor.loggedInIds = none ∧
        input.2 = .command (.login credentials replyTo)) ∨
      ∃ ids, actor.driver = some (.tradeLogin credentials replyTo ids) := by
  rcases input with ⟨world, input⟩
  have stepped := TradeActor.step_case accountId actor (world, input)
  generalize (TradeActor.machine accountId).next actor (world, input) = next
    at stepped handled
  generalize (TradeActor.machine accountId).emits actor (world, input) = effects at stepped
  cases stepped with
  | ignoredCommand | ignoredEvent => exact Or.inr ⟨loginIds, handled⟩
  | command command idle =>
      rcases handleTradeCommand_login accountId world actor command handled with
        ⟨loggedOut, rfl, -⟩
      exact Or.inl ⟨idle, loggedOut, rfl⟩
  | idleEvent event idle =>
      have kept : (handleLoggedInTradeEvent accountId world actor event).1.driver = none := by
        cases event <;> exact idle
      rw [kept] at handled
      cases handled
  | requestEvent event driver waits request =>
      simp only at handled
      split at handled
      · cases handled
      · cases handled
        cases request
  | loginEvent event session credentials' replyTo' loginIds' connected suspended =>
      rw [reportLoginFailure_state] at handled
      rcases driveTradeLoginEvent_driver world actor session credentials' replyTo' loginIds'
          event with ended | ⟨ids, goesOn⟩
      · rw [ended] at handled
        cases handled
      · rw [goesOn] at handled
        cases handled
        exact Or.inr ⟨_, suspended⟩

/-- Where only a logged-out actor handles a login, so it is after a step. -/
theorem loggedOut_of_login_next (accountId : AccountId) {actor : TradeActor}
    (loggedOut : ∀ credentials replyTo loginIds,
      actor.driver = some (.tradeLogin credentials replyTo loginIds) →
        actor.loggedInIds = none)
    {input : World × TradeInput} {credentials : AccountCredentials} {replyTo : EnvelopeTx}
    {loginIds : Option (Int32 × Int32)}
    (handled : ((TradeActor.machine accountId).next actor input).driver =
      some (.tradeLogin credentials replyTo loginIds)) :
    ((TradeActor.machine accountId).next actor input).loggedInIds = none := by
  have before : actor.loggedInIds = none := by
    rcases login_of_next accountId actor input handled with ⟨-, none, -⟩ | ⟨ids, earlier⟩
    · exact none
    · exact loggedOut credentials replyTo ids earlier
  cases completed : actor.completes input.2 with
  | some ids =>
      rw [TradeActor.driver_next_of_completes accountId input.1 completed] at handled
      cases handled
  | none => rw [TradeActor.loggedInIds_next, completed, before, ite_self, Option.none_or]

end CtpSystem
