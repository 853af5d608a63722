import CtpSystem.Trade.Conclusions
import CtpSystem.Trade.Replies

/-!
# The actor and the callbacks of its session

The actor together with the shared state of its session and the event channel the
callbacks write to.  CTP answers the requests it accepted, under the ids they were given;
the actor may have gone on to other requests by then.
-/

namespace CtpSystem

open Reactive

/-! ## The connection -/

/-- The call an effect makes on the TraderApi, with its return code. -/
def Effect.call : Effect → Option (CtpRequest × Int32)
  | .request sent rc => some (sent, rc)
  | .reply _ _ | .push _ _ _ | .setAccountState _ _ => none

/-- The kind of request CTP answers under its request id. -/
def CtpRequest.requestKind : CtpRequest → Option RequestKind
  | .qryTradingAccount _ _ _ => some .account
  | .qryInvestorPosition _ _ _ => some (.rows .positions)
  | .qryOrder _ _ _ => some (.rows .orders)
  | .qryTrade _ _ _ => some (.rows .trades)
  | .orderAction _ => some .cancel
  | .authenticate _ _ _ _ _ | .userLogin _ _ _ _ | .settlementInfoConfirm _ _ _
  | .orderInsert _ => none

/-- What happens next: the actor is given a command or the next event of its session, or
CTP runs a callback. -/
inductive ConnectionInput where
  | command (command : TradeSessionCommand)
  | receive
  | callback (callback : SpiCallback)
  deriving DecidableEq

/-- The actor, the events that wait in the channel of its session, and the calls made on
that session in order: the first one has request id 1. -/
structure TradeConnection where
  actor : TradeActor := {}
  queue : List TradeSessionEvent := []
  sent : List (CtpRequest × Int32) := []

namespace TradeConnection

/-- The shared state of the session. -/
def shared (connection : TradeConnection) : Option SharedState :=
  connection.actor.session.bind (·.shared)

/-- The id of the last request. -/
def requestId (connection : TradeConnection) : Option Int32 :=
  connection.actor.session.map (·.requestId)

/-- The actor takes an input: a session that is made or dropped starts from nothing. -/
def take (accountId : AccountId) (connection : TradeConnection) (world : World)
    (input : TradeInput) (queue : List TradeSessionEvent) : TradeConnection × List Effect :=
  let (actor, effects) := connection.actor.step accountId world input
  if (connection.actor.connects (world, input)).isSome || connection.actor.drops input then
    ({ actor := actor }, effects)
  else
    ({ actor := actor
       queue := queue
       sent := connection.sent ++ effects.filterMap Effect.call }, effects)

/-- A callback of the session, where there is one. -/
def called (connection : TradeConnection) (callback : SpiCallback) : TradeConnection :=
  match connection.shared with
  | none => connection
  | some shared =>
      { connection with
        actor :=
          { connection.actor with
            session := connection.actor.session.map fun session =>
              { session with shared := some (shared.called callback).1 } }
        queue := connection.queue ++ (shared.called callback).2 }

/-- One step of the connection. -/
def step (accountId : AccountId) (connection : TradeConnection) (world : World) :
    ConnectionInput → TradeConnection × List Effect
  | .command command => connection.take accountId world (.command command) connection.queue
  | .receive =>
      match connection.queue with
      | [] => (connection, [])
      | event :: rest =>
          if connection.actor.takesEvent then
            connection.take accountId world (.event event) rest
          else (connection, [])
  | .callback callback => (connection.called callback, [])

/-- The connection of an account, before any command. -/
def machine (accountId : AccountId) :
    Machine TradeConnection (World × ConnectionInput) Effect where
  init := {}
  step connection input := connection.step accountId input.1 input.2

/-- CTP accepted a request of the kind under the id. -/
def asked (connection : TradeConnection) (kind : RequestKind) (requestId : Int32) : Bool :=
  connection.sent.zipIdx.any fun (call, number) =>
    call.2 = 0 && requestId = Int32.ofNat (number + 1) && call.1.requestKind = some kind

end TradeConnection

/-- CTP answers the requests it accepted, each in the way of its kind. -/
def AnswersRequests (connection : TradeConnection) (input : World × ConnectionInput) : Prop :=
  match input.2 with
  | .callback callback =>
      callback.answers.all (fun kind => callback.requestId.all (connection.asked kind)) = true
  | _ => True

instance (connection : TradeConnection) (input : World × ConnectionInput) :
    Decidable (AnswersRequests connection input) := by
  rcases input with ⟨world, input⟩
  cases input <;> (unfold AnswersRequests; infer_instance)

/-- The session has request ids left: the counter wraps after 2^32 requests. -/
def IdsLeft (connection : TradeConnection) (_ : World × ConnectionInput) : Prop :=
  connection.sent.length + 1 < 4294967296

instance (connection : TradeConnection) (input : World × ConnectionInput) :
    Decidable (IdsLeft connection input) :=
  inferInstanceAs (Decidable (_ < _))

/-! ## What a client is told -/

namespace TradeSessionCommand

/-- The kind of request a command makes, where it waits for the answer. -/
def requestKind : TradeSessionCommand → Option RequestKind
  | .queryAccount _ _ => some .account
  | .queryPosition _ _ _ => some (.rows .positions)
  | .queryOrders _ _ => some (.rows .orders)
  | .queryTrades _ _ => some (.rows .trades)
  | .cancelOrder _ _ => some .cancel
  | .login _ _ | .placeOrder _ _ _ | .logout _ => none

/-- The account a query names. -/
def queried : TradeSessionCommand → AccountId
  | .queryAccount accountId _ | .queryPosition accountId _ _ | .queryOrders accountId _
  | .queryTrades accountId _ => accountId
  | .cancelOrder cancel _ => cancel.accountId
  | .login credentials _ => credentials.accountId
  | .placeOrder _ order _ => order.accountId
  | .logout _ => ⟨""⟩

end TradeSessionCommand

namespace RequestKind

/-- What the client is told of an answer without an error; a cancel that is accepted is not
answered. -/
def result (world : World) (orderRegistry : OrderRegistry) (queried : AccountId)
    (requestId : Int32) (callbacks : List SpiCallback) (last : SpiCallback) :
    RequestKind → Option Message
  | .account =>
      some (.queryAccountResult
        (last.balance.getD ⟨⟨""⟩, ⟨0⟩, ⟨0⟩, ⟨0⟩, ⟨0⟩, ⟨0⟩, ⟨0⟩, ⟨0⟩⟩))
  | .rows kind =>
      some (kind.answer world orderRegistry queried (kind.rowsIn requestId callbacks))
  | .cancel => none

/-- What the client is told when its request ends: the error of the last callback, or what
the callbacks of the request reported. -/
def told (world : World) (orderRegistry : OrderRegistry) (queried : AccountId)
    (requestId : Int32) (callbacks : List SpiCallback) (last : SpiCallback)
    (kind : RequestKind) : Option Message :=
  match last.refusal with
  | some info => some (.error info.errorId info.errorMsg)
  | none => kind.result world orderRegistry queried requestId callbacks last

end RequestKind

section Drivers

variable {command : TradeSessionCommand} {requestId : Int32} {driver : Driver}

/-- A request driver is told of the end of its request, and returns. -/
theorem replies_conclusion {kind : RequestKind}
    (serves : command.requestDriver requestId = some driver)
    (asks : command.requestKind = some kind) (world : World) (orderRegistry : OrderRegistry)
    (callbacks : List SpiCallback) (last : SpiCallback) :
    driver.returnsOn (kind.conclusion requestId callbacks last) = true ∧
      driver.replies world orderRegistry (kind.conclusion requestId callbacks last) =
        ((kind.told world orderRegistry command.queried requestId callbacks last).map
          (Effect.reply command.replyTo)).toList := by
  cases command with
  | login | placeOrder | logout => cases serves
  | cancelOrder | queryAccount | queryPosition | queryOrders | queryTrades =>
      cases serves
      cases asks
      rw [RequestKind.conclusion, RequestKind.told]
      cases last.refusal <;>
        simp [RequestKind.refused, RequestKind.accepted, RequestKind.result, Driver.returnsOn, Driver.replies,
          QueryKind.ready, QueryKind.answer, queryAccountAnswer, queryPositionsAnswer,
          queryOrdersAnswer, queryTradesAnswer, sendError, TradeSessionCommand.replyTo,
          TradeSessionCommand.queried]

/-- On any event that does not answer its request, a request driver is silent. -/
theorem replies_of_not_concludes (waits : driver.rid = some requestId) (world : World)
    (orderRegistry : OrderRegistry) {event : TradeSessionEvent}
    (other : event.concludes requestId = false) :
    driver.replies world orderRegistry event = [] := by
  cases driver <;> cases event <;>
    simp_all [Driver.rid, Driver.replies, TradeSessionEvent.concludes,
      TradeSessionEvent.isAbout, TradeSessionEvent.requestId, queryAccountAnswer,
      queryPositionsAnswer, queryOrdersAnswer, queryTradesAnswer]

end Drivers

/-! ## What a step does to the session -/

/-- A request that is made on a connected session is one call. -/
theorem calls_requested {session : TradeSession} (loaded : session.api.isSome) (rc : Int32)
    (call : String) (pending : Option PendingQuery) (field : Int32 → CtpRequest) :
    (TradeActor.requested (session.request rc call pending field)).filterMap Effect.call =
      [(field (session.requestId + 1), rc)] := by
  rcases Option.isSome_iff_exists.mp loaded with ⟨api, handle⟩
  simp [TradeActor.requested, TradeSession.request, handle, Effect.call]

theorem calls_reportPushes (world : World) (orderRegistry : OrderRegistry)
    (event : TradeSessionEvent) :
    (reportPushes world orderRegistry event).filterMap Effect.call = [] := by
  rw [List.filterMap_eq_nil_iff]
  intro effect pushed
  rcases mem_reportPushes.mp pushed with ⟨context, message, -, -, rfl⟩
  rfl

theorem calls_replies (world : World) (orderRegistry : OrderRegistry) (driver : Driver)
    (event : TradeSessionEvent) :
    (driver.replies world orderRegistry event).filterMap Effect.call = [] := by
  rw [List.filterMap_eq_nil_iff]
  intro effect emitted
  rcases Driver.mem_replies emitted with ⟨replyTo, message, rfl⟩
  rfl

theorem calls_reportLoginFailure (accountId : AccountId) (world : World)
    (replyTo : EnvelopeTx) (login : Handling) :
    (reportLoginFailure accountId world replyTo login).outputs.filterMap Effect.call =
      login.outputs.filterMap Effect.call := by
  rw [reportLoginFailure]
  split
  · rw [List.filterMap_append]
    exact List.append_nil _
  · rfl

/-- What becomes of a session that is neither made nor dropped: it is left as it is, or
one request is made on it. -/
inductive SessionCase (actor next : TradeActor) (effects : List Effect) : Prop where
  | kept (same : next.session = actor.session) (silent : effects.filterMap Effect.call = [])
  | requested (session : TradeSession) (rc : Int32) (call : String)
      (pending : Option PendingQuery) (field : Int32 → CtpRequest)
      (before : actor.session = some session)
      (after : next.session = some (session.request rc call pending field).session)
      (made : effects.filterMap Effect.call = [(field (session.requestId + 1), rc)])

section SessionSteps

variable {accountId : AccountId} {world : World} {actor : TradeActor}

/-- A submission is one request. -/
theorem sessionCase_submit {session : TradeSession} (present : actor.session = some session)
    (loaded : session.api.isSome) {effects : List Effect}
    (silent : effects.filterMap Effect.call = []) (rc : Int32) (call : String)
    (pending : Option PendingQuery) (field : Int32 → CtpRequest) (driver : Int32 → Driver) :
    SessionCase actor
      (actor.submit effects (session.request rc call pending field) driver).state
      (actor.submit effects (session.request rc call pending field) driver).outputs := by
  apply SessionCase.requested session rc call pending field present
  · rw [TradeActor.submit_session]
  · rw [TradeActor.submit_outputs, List.filterMap_append, silent, List.nil_append,
      calls_requested loaded]

/-- The session in a step of the login driver. -/
theorem sessionCase_login {session : TradeSession} (present : actor.session = some session)
    (loaded : session.api.isSome) (credentials : AccountCredentials) (replyTo : EnvelopeTx)
    (loginIds : Option (Int32 × Int32)) (event : TradeSessionEvent) :
    SessionCase actor
      (driveTradeLoginEvent world actor session credentials replyTo loginIds event).state
      (driveTradeLoginEvent world actor session credentials replyTo loginIds
        event).outputs := by
  cases event with
  | frontConnected | authenticateOk | loginOk =>
      exact sessionCase_submit present loaded rfl _ _ _ _ _
  | settlementConfirmed | authenticateFailed | loginFailed | settlementConfirmFailed
  | error | frontDisconnected | heartBeatWarning | orderInsertRejected | orderReturn
  | tradeReturn | queryAccountReady | queryPositionsReady | queryOrdersReady
  | queryTradesReady | queryFailed | cancelActionOk | cancelActionFailed =>
      exact .kept rfl rfl

/-- The session after a command that neither makes nor drops it. -/
theorem sessionCase_command {command : TradeSessionCommand} (idle : actor.driver = none)
    (loaded : ∀ session, actor.session = some session → session.api.isSome)
    (stays : ((actor.connects (world, .command command)).isSome ||
      actor.drops (.command command)) = false) :
    SessionCase actor (handleTradeCommand accountId world actor command).state
      (handleTradeCommand accountId world actor command).outputs := by
  have handled := tradeCommand_case accountId world actor command
  generalize handleTradeCommand accountId world actor command = handling at handled ⊢
  cases handled with
  | login credentials replyTo loggedOut =>
      have silent := calls_reportLoginFailure accountId world replyTo
        (driveTradeLogin world actor credentials replyTo)
      apply SessionCase.kept
      · rw [reportLoginFailure_state]
        cases present : actor.session with
        | some session => simp [driveTradeLogin, loggedOut, present]
        | none =>
            cases outcome : world.connect with
            | ok _ =>
                simp [TradeActor.connects, idle, loggedOut, present, outcome, Except.isOk,
                  Except.toBool] at stays
            | error message =>
                simp [driveTradeLogin, loggedOut, present, outcome, TradeSession.connect]
      · rw [silent]
        simp only [driveTradeLogin, loggedOut]
        split <;> rfl
  | rejected | known | unconnected => exact .kept rfl rfl
  | logout replyTo loggedIn =>
      simp [TradeActor.drops, TradeActor.releases, idle, loggedIn] at stays
  | placed clientId order replyTo session rid loggedIn present accepted =>
      exact .requested session _ _ _ _ present rfl
        (calls_requested (loaded session present) _ _ _ _)
  | unplaced clientId order replyTo session message loggedIn present failed =>
      apply SessionCase.requested session world.rc "req_order_insert" none _ present rfl
      rw [TradeActor.finish_outputs, List.filterMap_append]
      exact (List.append_nil _).trans (calls_requested (loaded session present) _ _ _ _)
  | request _ session call pending field driver loggedIn present =>
      exact sessionCase_submit present (loaded session present) rfl _ _ _ _ _

/-- The session after an input that neither makes nor drops it. -/
theorem session_case (accountId : AccountId) (actor : TradeActor) (input : World × TradeInput)
    (loaded : ∀ session, actor.session = some session → session.api.isSome)
    (stays : ((actor.connects input).isSome || actor.drops input.2) = false) :
    SessionCase actor ((TradeActor.machine accountId).next actor input)
      ((TradeActor.machine accountId).emits actor input) := by
  rcases input with ⟨world, input⟩
  have stepped := TradeActor.step_case accountId actor (world, input)
  generalize (TradeActor.machine accountId).next actor (world, input) = next at stepped ⊢
  generalize (TradeActor.machine accountId).emits actor (world, input) = effects at stepped ⊢
  cases stepped with
  | ignoredCommand | ignoredEvent => exact .kept rfl rfl
  | command command idle => exact sessionCase_command idle loaded stays
  | idleEvent event =>
      apply SessionCase.kept
      · cases event <;> rfl
      · rw [List.filterMap_eq_nil_iff]
        intro effect emitted
        rcases idleEvent_outputs emitted with pushed | ⟨-, rfl⟩
        · exact List.filterMap_eq_nil_iff.mp (calls_reportPushes _ _ _) effect pushed
        · rfl
  | requestEvent event driver =>
      refine .kept rfl ?_
      rw [List.filterMap_append, calls_reportPushes, calls_replies]
      rfl
  | loginEvent event session credentials replyTo loginIds present =>
      have driven : SessionCase actor
          (driveTradeLoginEvent world actor session credentials replyTo loginIds event).state
          (driveTradeLoginEvent world actor session credentials replyTo loginIds
            event).outputs :=
        sessionCase_login present (loaded session present) credentials replyTo loginIds event
      rw [reportLoginFailure_state]
      cases driven with
      | kept same silent =>
          exact .kept same ((calls_reportLoginFailure accountId world replyTo _).trans silent)
      | requested session rc call pending field before after made =>
          exact .requested session rc call pending field before after
            ((calls_reportLoginFailure accountId world replyTo _).trans made)

end SessionSteps

/-- A session that is made has no requests yet, and no request is waited for. -/
structure FreshSession (actor : TradeActor) : Prop where
  unused : ∀ session, actor.session = some session →
    session.requestId = 0 ∧ session.api.isSome ∧ session.shared.isSome
  waitless : ∀ driver, actor.driver = some driver → driver.rid = none

theorem freshSession_next (accountId : AccountId) (actor : TradeActor)
    (input : World × TradeInput)
    (resets : ((actor.connects input).isSome || actor.drops input.2) = true) :
    FreshSession ((TradeActor.machine accountId).next actor input) := by
  rcases input with ⟨world, input⟩
  rw [Bool.or_eq_true] at resets
  rcases resets with connects | drops
  · cases input with
    | event event => cases connects
    | command command =>
        cases command with
        | login credentials replyTo =>
            simp only [TradeActor.connects, Option.isSome_ite, Bool.and_eq_true,
              Option.isNone_iff_eq_none] at connects
            rcases connects with ⟨⟨⟨idle, loggedOut⟩, absent⟩, connected⟩
            cases outcome : world.connect with
            | error message =>
                rw [outcome] at connected
                cases connected
            | ok _ =>
                have reached : (TradeActor.machine accountId).next actor
                    (world, .command (.login credentials replyTo)) =
                    { actor with
                      session := some { config := tradeSessionConfig credentials
                                        api := some {}
                                        shared := some {} }
                      driver := some (.tradeLogin credentials replyTo none) } := by
                  simp [Machine.next, TradeActor.machine, TradeActor.step, idle,
                    handleTradeCommand, loggedOut, handleLoggedOutTradeCommand,
                    driveTradeLogin, absent, outcome, TradeSession.connect,
                    TradeSession.new, TradeActor.waitIn]
                rw [reached]
                refine ⟨?_, ?_⟩
                · rintro session ⟨⟩
                  exact ⟨rfl, rfl, rfl⟩
                · rintro driver ⟨⟩
                  rfl
        | placeOrder | cancelOrder | queryAccount | queryPosition | queryOrders
        | queryTrades | logout => cases connects
  · cases input with
    | event event => cases drops
    | command command =>
        cases command with
        | logout replyTo =>
            simp only [TradeActor.drops, TradeActor.releases, Bool.and_eq_true,
              Option.isNone_iff_eq_none] at drops
            rcases drops with ⟨idle, loggedIn⟩
            have reached : (TradeActor.machine accountId).next actor
                (world, .command (.logout replyTo)) =
                { actor with
                  session := none
                  loggedInIds := none
                  orderRegistry := ∅
                  driver := none } := by
              simp [Machine.next, TradeActor.machine, TradeActor.step, idle,
                handleTradeCommand, loggedIn, handleLoggedInTradeCommand, TradeActor.finish]
            rw [reached]
            refine ⟨?_, ?_⟩
            · rintro session ⟨⟩
            · rintro driver ⟨⟩
        | login | placeOrder | cancelOrder | queryAccount | queryPosition | queryOrders
        | queryTrades => cases drops

/-! ## The request a driver waits for -/

/-- The handling of a command made its request under the id, and the call was accepted. -/
def MakesRequest (session : Option TradeSession) (command : TradeSessionCommand)
    (requestId : Int32) (driver : Driver) (handling : Handling) : Prop :=
  ∃ kind before call field, command.requestKind = some kind ∧
    command.requestDriver requestId = some driver ∧ session = some before ∧
    requestId = before.requestId + 1 ∧ (field requestId).requestKind = some kind ∧
    handling.state.session =
      some (before.request 0 call (some (kind.collected requestId [])) field).session ∧
    handling.outputs.filterMap Effect.call = [(field requestId, 0)]

/-- A driver that waits for a request was given the next request id by its command. -/
theorem handleTradeCommand_waits {accountId : AccountId} {world : World} {actor : TradeActor}
    {command : TradeSessionCommand} {driver : Driver} {requestId : Int32}
    (waits : (handleTradeCommand accountId world actor command).state.driver = some driver)
    (waitsFor : driver.rid = some requestId) :
    MakesRequest actor.session command requestId driver
      (handleTradeCommand accountId world actor command) := by
  have submitted {kind : RequestKind} {session : TradeSession} {call : String}
      {pending : PendingQuery} {field : Int32 → CtpRequest} {made : Int32 → Driver}
      {handling : Handling} (asks : command.requestKind = some kind)
      (serves : ∀ rid, command.requestDriver rid = some (made rid))
      (named : ∀ rid, (made rid).rid = some rid) (empty : pending = kind.collected requestId [])
      (requests : ∀ rid, (field rid).requestKind = some kind)
      (handled : handling =
        actor.submit [] (session.request world.rc call (some pending) field) made)
      (suspended : handling.state.driver = some driver) :
      MakesRequest (some session) command requestId driver handling := by
    subst handled empty
    cases outcome : (session.request world.rc call (some (kind.collected requestId []))
        field).result with
    | error message =>
        rw [TradeActor.submit_of_error outcome] at suspended
        cases suspended
    | ok rid =>
        rw [TradeActor.submit_of_ok outcome, TradeActor.waitIn_driver] at suspended
        cases suspended
        cases (named rid).symm.trans waitsFor
        rcases (session.request_result _ _ _ _).mp ⟨requestId, outcome⟩ with ⟨loaded, accepted⟩
        have next := TradeSession.requestId_of_ok outcome
        refine ⟨kind, session, call, field, asks, serves requestId, rfl, next,
          requests requestId, ?_, ?_⟩
        · rw [TradeActor.submit_session, accepted]
        · rw [TradeActor.submit_outputs, accepted, List.nil_append, calls_requested loaded,
            next]
  cases ids : actor.loggedInIds with
  | none =>
      exfalso
      have loginOnly : ∀ credentials replyTo loginIds,
          driver ≠ .tradeLogin credentials replyTo loginIds := by
        rintro credentials replyTo loginIds rfl
        cases waitsFor
      simp only [handleTradeCommand, ids, Option.isSome_none, Bool.false_eq_true, if_false]
        at waits
      cases command with
      | login credentials replyTo =>
          simp only [handleLoggedOutTradeCommand, reportLoginFailure_state, driveTradeLogin,
            ids] at waits
          split at waits
          · cases waits
          · cases waits
            exact loginOnly _ _ _ rfl
      | placeOrder | cancelOrder | queryAccount | queryPosition | queryOrders | queryTrades
      | logout => cases waits
  | some ids' =>
      simp only [handleTradeCommand, ids, Option.isSome_some, if_true] at waits ⊢
      cases command with
      | login credentials replyTo =>
          simp only [handleLoggedInTradeCommand, ids] at waits
          cases waits
      | logout => cases waits
      | placeOrder clientId order replyTo =>
          exfalso
          simp only [handleLoggedInTradeCommand, withSession] at waits
          split at waits
          · cases waits
          · split at waits <;> cases waits
      | cancelOrder | queryAccount | queryPosition | queryOrders | queryTrades =>
          simp only [handleLoggedInTradeCommand, ids, withSession] at waits ⊢
          cases present : actor.session with
          | none =>
              rw [present] at waits
              cases waits
          | some session =>
              rw [present] at waits
              exact submitted rfl (fun _ => rfl) (fun _ => rfl) rfl (fun _ => rfl) rfl
                waits

end CtpSystem
