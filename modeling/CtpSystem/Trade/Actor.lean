import CtpSystem.Library.Machine
import CtpSystem.Trade.Drivers

/-!
# The trade session actor

The task of `TradeSessionActor::spawn`.  At the top of its loop it takes a
command, or an event while it is logged in; inside a driver it takes events only.
An input it is not ready for stays in its channel.
-/

namespace CtpSystem

open Reactive

/-- What can reach the actor: a command from its channel or a session event. -/
inductive TradeInput where
  | command (command : TradeSessionCommand)
  | event (event : TradeSessionEvent)
  deriving DecidableEq

/-- The error arm of `handle_logged_out_trade_command` around `drive_trade_login`. -/
def reportLoginFailure (accountId : AccountId) (world : World) (replyTo : EnvelopeTx)
    (login : Handling) : Handling :=
  match login.result with
  | some (.error _) =>
      { login with
        outputs := login.outputs ++
          [sendAccountState replyTo (accountState world.clock accountId .error)] }
  | _ => login

/-- `handle_logged_out_trade_command`. -/
def handleLoggedOutTradeCommand (accountId : AccountId) (world : World)
    (actor : TradeActor) : TradeSessionCommand → Handling
  | .login credentials replyTo =>
      reportLoginFailure accountId world replyTo
        (driveTradeLogin world actor credentials replyTo)
  | .placeOrder _ _ replyTo =>
      actor.finish
        [sendError replyTo (-11) "account is not logged in; place order rejected"]
        (.ok ())
  | .cancelOrder _ replyTo | .queryAccount _ replyTo | .queryPosition _ _ replyTo
  | .queryOrders _ replyTo | .queryTrades _ replyTo =>
      actor.finish
        [sendError replyTo (-11) "account is not logged in; command rejected"]
        (.ok ())
  | .logout replyTo =>
      actor.finish
        [sendAccountState replyTo (accountState world.clock accountId .disconnected)]
        (.ok ())

/-- `session.as_mut().ok_or_else(..)?` in front of a request. -/
def withSession (actor : TradeActor) (body : TradeSession → Handling) : Handling :=
  match actor.session with
  | none => actor.finish [] (.error "trade session is not connected")
  | some session => body session

/-- `handle_logged_in_trade_command`. -/
def handleLoggedInTradeCommand (accountId : AccountId) (world : World)
    (actor : TradeActor) : TradeSessionCommand → Handling
  | .login credentials replyTo =>
      match actor.loggedInIds with
      | some ids =>
          actor.finish
            [sendAccountState replyTo
              (loggedInState world.clock credentials.accountId ids)] (.ok ())
      | none => actor.finish [] (.ok ())
  | .placeOrder clientId order replyTo =>
      withSession actor fun session =>
        let (registered, called) :=
          registerAndInsertOrder world actor session clientId order
        match called.result with
        | .error message =>
            registered.finish
              (TradeActor.requested called ++ [sendError replyTo (-10) message])
              (.error message)
        | .ok _ => registered.finish (TradeActor.requested called) (.ok ())
  | .cancelOrder cancel replyTo =>
      match actor.loggedInIds with
      | none => actor.finish [] (.error "trade session is not logged in")
      | some (frontId, sessionId) =>
          withSession actor fun session =>
            driveCancelOrder world actor session cancel frontId sessionId replyTo
  | .queryAccount _ replyTo =>
      withSession actor fun session => driveQueryAccount world actor session replyTo
  | .queryPosition _ instrumentId replyTo =>
      withSession actor fun session =>
        driveQueryPositions world actor session (instrumentId.map (·.asStr)) replyTo
  | .queryOrders queried replyTo =>
      withSession actor fun session =>
        driveQueryOrders world actor session queried replyTo
  | .queryTrades queried replyTo =>
      withSession actor fun session =>
        driveQueryTrades world actor session queried replyTo
  | .logout replyTo =>
      { actor with session := none, loggedInIds := none, orderRegistry := ∅ }.finish
        [sendAccountState replyTo (accountState world.clock accountId .disconnected)]
        (.ok ())

/-- `handle_logged_in_trade_event`. -/
def handleLoggedInTradeEvent (accountId : AccountId) (world : World)
    (actor : TradeActor) : TradeSessionEvent → TradeActor × List Effect
  | .orderReturn report =>
      (actor, pushOrderReport world.shared world.clock actor.orderRegistry report)
  | .tradeReturn report =>
      (actor, pushTradeReport world.shared world.clock actor.orderRegistry report)
  | .frontDisconnected _ =>
      ({ actor with loggedInIds := none }, [.setAccountState accountId .disconnected])
  | .heartBeatWarning _ | .orderInsertRejected _ _ => (actor, [])
  | _ => (actor, [])

/-- One event inside the driver the actor is suspended in. -/
def driverEvent (accountId : AccountId) (world : World) (actor : TradeActor)
    (session : TradeSession) (driver : Driver) (event : TradeSessionEvent) : Handling :=
  match driver with
  | .tradeLogin credentials replyTo loginIds =>
      reportLoginFailure accountId world replyTo
        (driveTradeLoginEvent world actor session credentials replyTo loginIds event)
  | request =>
      let pass := request.requestEvent world actor.orderRegistry event
      match pass.2 with
      | some result => actor.finish pass.1 result
      | none => actor.waitIn request pass.1

/-- `handle_logged_in_trade_command` or `handle_logged_out_trade_command`, as the
loop chooses between them. -/
def handleTradeCommand (accountId : AccountId) (world : World) (actor : TradeActor)
    (command : TradeSessionCommand) : Handling :=
  if actor.loggedInIds.isSome then handleLoggedInTradeCommand accountId world actor command
  else handleLoggedOutTradeCommand accountId world actor command

namespace TradeActor

/-- One turn of the actor's task on one input. -/
def step (accountId : AccountId) (actor : TradeActor) (world : World) :
    TradeInput → TradeActor × List Effect
  | .command command =>
      match actor.driver with
      | some _ => (actor, [])
      | none =>
          let handling := handleTradeCommand accountId world actor command
          (handling.state, handling.outputs)
  | .event event =>
      match actor.session, actor.driver with
      | none, _ => (actor, [])
      | some session, some driver =>
          let handling := driverEvent accountId world actor session driver event
          (handling.state, handling.outputs)
      | some _, none =>
          if actor.loggedInIds.isSome then handleLoggedInTradeEvent accountId world actor event
          else (actor, [])

/-- The actor of an account, as `TradeSessionActor::spawn` starts it. -/
def machine (accountId : AccountId) :
    Machine TradeActor (World × TradeInput) Effect where
  init := {}
  step actor input := actor.step accountId input.1 input.2

/-- Whether the actor takes a command now. -/
def takesCommand (actor : TradeActor) : Bool :=
  actor.driver.isNone

/-- Whether the actor takes an event of its session now. -/
def takesEvent (actor : TradeActor) : Bool :=
  actor.session.isSome && (actor.driver.isSome || actor.loggedInIds.isSome)

/-- The receive loops of the drivers, as loops over the actor's variables: what is
left of a command handler that is suspended. -/
def driverLoop (accountId : AccountId) :
    ReceiveLoop TradeActor (World × TradeSessionEvent) Effect (Except String Unit) where
  pass actor input :=
    match actor.session, actor.driver with
    | some session, some driver =>
        driverEvent accountId input.1 actor session driver input.2
    | _, _ => ⟨actor, [], none⟩

/-- A command handler from the moment the command is taken, over the events it
consumes until it returns. -/
def serve (accountId : AccountId) (actor : TradeActor) (world : World)
    (command : TradeSessionCommand) (inputs : List (World × TradeSessionEvent)) : Handling :=
  let started := handleTradeCommand accountId world actor command
  match started.result with
  | some _ => started
  | none =>
      let rest := (driverLoop accountId).feed started.state inputs
      { rest with outputs := started.outputs ++ rest.outputs }

/-- The inputs of a login that goes through, for the credentials of an account. -/
def loginInputs (world : World) (credentials : AccountCredentials) (replyTo : EnvelopeTx)
    (frontId sessionId : Int32) : List (World × TradeInput) :=
  [.command (.login credentials replyTo), .event .frontConnected, .event .authenticateOk,
    .event (.loginOk "20260101" frontId sessionId), .event .settlementConfirmed].map
      fun input => (world, input)

/-- An actor whose first command was a login that went through. -/
def online : TradeActor :=
  (machine ⟨"1001"⟩).runFrom {}
    (loginInputs (World.accepting {}) ⟨⟨"1001"⟩, "", "9999", "", ""⟩ ⟨0⟩ 1 7)

example : online.loggedInIds = some (1, 7) ∧ online.driver = none := by decide

end TradeActor

end CtpSystem
