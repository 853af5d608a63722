import Mathlib.Data.List.Forall2
import CtpSystem.Server.Isolation
import CtpSystem.Trade.LoginIds

/-!
# What reaches the exchange

Between an envelope and the exchange lie the whitelist, the command channel of the account
and its actor.  What the actor asks of the exchange is what permitted envelopes asked for on
its account: nothing is invented, sent twice, or sent in another order.  Each request is
written out here in full, for the account, with what the session adds to it.
-/

namespace CtpSystem

open Reactive

/-! ## What is asked of the exchange -/

/-- What a session adds to a request: the broker it was made for, the front and session of
its login, and the number of the request. -/
structure SessionIds where
  brokerId : String
  frontId : Int32
  sessionId : Int32
  requestId : Int32
  deriving DecidableEq

/-- What a command on an account asks of the exchange. -/
def TradeSessionCommand.ctpRequest (accountId : AccountId) (ids : SessionIds) :
    TradeSessionCommand → Option CtpRequest
  | .login _ _ | .logout _ => none
  | .placeOrder _ order _ =>
      some (.orderInsert {
        brokerId := ids.brokerId
        investorId := accountId.asStr
        userId := accountId.asStr
        accountId := accountId.asStr
        instrumentId := order.instrumentId.asStr
        orderRef := normalizeOrderRef order.clientOrderId.asStr
        orderPriceType := orderPriceType order.orderType
        direction := directionFlag order.direction
        combOffsetFlag := offsetFlag order.offset
        combHedgeFlag := "1"
        limitPrice := order.price
        volumeTotalOriginal := order.volume
        timeCondition := timeCondition order.orderType
        volumeCondition := volumeCondition order.orderType
        minVolume := 1
        contingentCondition := '1'
        forceCloseReason := '0'
        isAutoSuspend := 0
        userForceClose := 0
        isSwapOrder := 0
        requestId := ids.requestId })
  | .cancelOrder cancel _ =>
      some (.orderAction {
        brokerId := ids.brokerId
        investorId := accountId.asStr
        userId := accountId.asStr
        frontId := ids.frontId
        sessionId := ids.sessionId
        actionFlag := '0'
        instrumentId := cancel.instrumentId.asStr
        orderSysId := cancel.exchangeOrderId.map (·.asStr)
        orderRef := cancel.clientOrderId.map fun id => normalizeOrderRef id.asStr
        requestId := ids.requestId })
  | .queryAccount _ _ => some (.qryTradingAccount ids.brokerId accountId.asStr "CNY")
  | .queryPosition _ instrumentId _ =>
      some (.qryInvestorPosition ids.brokerId accountId.asStr (instrumentId.map (·.asStr)))
  | .queryOrders _ _ => some (.qryOrder ids.brokerId accountId.asStr none)
  | .queryTrades _ _ => some (.qryTrade ids.brokerId accountId.asStr none)

/-- The requests a login makes on its own. -/
def CtpRequest.ofLogin : CtpRequest → Bool
  | .authenticate _ _ _ _ _ | .userLogin _ _ _ _ | .settlementInfoConfirm _ _ _ => true
  | _ => false

/-- The request an effect sends, apart from those of a login. -/
def Effect.forwarded : Effect → Option CtpRequest
  | .request sent _ => if sent.ofLogin then none else some sent
  | .reply _ _ | .push _ _ _ | .setAccountState _ _ => none

/-! ## The actor -/

section Actor

variable {accountId : AccountId} {world : World} {actor : TradeActor}

/-- What the actor of a logged-in session adds to its next request. -/
def TradeSession.ids (session : TradeSession) (loggedInIds : Int32 × Int32) : SessionIds :=
  ⟨session.config.brokerId, loggedInIds.1, loggedInIds.2, session.requestId + 1⟩

/-- The effects forward nothing, or what the command asks for from a session of the account. -/
def ForwardsOnce (accountId : AccountId) (actor : TradeActor) (command : TradeSessionCommand)
    (effects : List Effect) : Prop :=
  effects.filterMap Effect.forwarded = [] ∨
    ∃ session loggedInIds request, actor.session = some session ∧
      actor.loggedInIds = some loggedInIds ∧
      command.ctpRequest accountId (session.ids loggedInIds) = some request ∧
      effects.filterMap Effect.forwarded = [request]

theorem ForwardsOnce.append {command : TradeSessionCommand} {effects later : List Effect}
    (forwards : ForwardsOnce accountId actor command effects)
    (silent : later.filterMap Effect.forwarded = []) :
    ForwardsOnce accountId actor command (effects ++ later) := by
  rwa [ForwardsOnce, List.filterMap_append, silent, List.append_nil]

/-- A request is forwarded as it is made, unless the session is not connected. -/
theorem forwarded_requested (session : TradeSession) (rc : Int32) (call : String)
    (pending : Option PendingQuery) {field : Int32 → CtpRequest}
    (plain : (field (session.requestId + 1)).ofLogin = false) :
    (TradeActor.requested (session.request rc call pending field)).filterMap
        Effect.forwarded = [] ∨
      (TradeActor.requested (session.request rc call pending field)).filterMap
        Effect.forwarded = [field (session.requestId + 1)] := by
  cases loaded : session.api with
  | none =>
      left
      simp [TradeActor.requested, TradeSession.request, loaded]
  | some api =>
      right
      simp [TradeActor.requested, TradeSession.request, loaded, Effect.forwarded, plain]

/-- A submission forwards the request its command asks for. -/
theorem forwardsOnce_submit {command : TradeSessionCommand} {session : TradeSession}
    {loggedInIds : Int32 × Int32} (connected : actor.session = some session)
    (loggedIn : actor.loggedInIds = some loggedInIds) (rc : Int32) (call : String)
    (pending : Option PendingQuery) {field : Int32 → CtpRequest}
    (plain : (field (session.requestId + 1)).ofLogin = false)
    (asks : command.ctpRequest accountId (session.ids loggedInIds) =
      some (field (session.requestId + 1))) (driver : Int32 → Driver) :
    ForwardsOnce accountId actor command
      (actor.submit [] (session.request rc call pending field) driver).outputs := by
  rw [TradeActor.submit_outputs, List.nil_append]
  refine (forwarded_requested session rc call pending plain).imp_right fun sent => ?_
  exact ⟨session, loggedInIds, _, connected, loggedIn, asks, sent⟩

theorem forwarded_reportLoginFailure (replyTo : EnvelopeTx) (login : Handling) :
    (reportLoginFailure accountId world replyTo login).outputs.filterMap Effect.forwarded =
      login.outputs.filterMap Effect.forwarded := by
  rw [reportLoginFailure]
  split
  · simp [sendAccountState, Effect.forwarded]
  · rfl

theorem forwarded_driveTradeLogin (credentials : AccountCredentials) (replyTo : EnvelopeTx) :
    (driveTradeLogin world actor credentials replyTo).outputs.filterMap Effect.forwarded =
      [] := by
  rw [driveTradeLogin]
  split
  · rfl
  · simp only
    split <;> rfl

/-- A command makes the actor of its account forward what it stands for, once, or nothing. -/
theorem forwardsOnce_handleTradeCommand
    (own : ∀ session, actor.session = some session →
      session.config.accountId = accountId.asStr) (command : TradeSessionCommand) :
    ForwardsOnce accountId actor command
      (handleTradeCommand accountId world actor command).outputs := by
  cases ids : actor.loggedInIds with
  | none =>
      left
      simp only [handleTradeCommand, ids, Option.isSome_none, Bool.false_eq_true, if_false]
      cases command with
      | login credentials replyTo =>
          simp only [handleLoggedOutTradeCommand, forwarded_reportLoginFailure,
            forwarded_driveTradeLogin]
      | _ => rfl
  | some loggedInIds =>
      simp only [handleTradeCommand, ids, Option.isSome_some, if_true]
      cases connected : actor.session with
      | none =>
          left
          cases command <;> simp [handleLoggedInTradeCommand, withSession, ids, connected,
            sendAccountState, Effect.forwarded]
      | some session =>
          have account := own session connected
          cases command with
          | login credentials replyTo =>
              left
              simp [handleLoggedInTradeCommand, ids, sendAccountState, Effect.forwarded]
          | logout => exact .inl rfl
          | placeOrder clientId order replyTo =>
              have forwarded : ForwardsOnce accountId actor
                  (.placeOrder clientId order replyTo)
                  (TradeActor.requested (session.insertOrder world.rc order)) := by
                refine (forwarded_requested session world.rc "req_order_insert" none
                  rfl).imp_right fun sent => ⟨session, loggedInIds, _, connected, ids, ?_, sent⟩
                simp [TradeSessionCommand.ctpRequest, TradeSession.ids, account]
              simp only [handleLoggedInTradeCommand, withSession, connected,
                registerAndInsertOrder]
              split
              · rw [TradeActor.finish_outputs]
                exact forwarded.append rfl
              · exact forwarded
          | cancelOrder cancel replyTo =>
              simp only [handleLoggedInTradeCommand, withSession, connected, ids]
              refine forwardsOnce_submit connected ids _ _ _ rfl ?_ _
              simp [TradeSessionCommand.ctpRequest, TradeSession.ids, account]
          | queryAccount | queryPosition | queryOrders | queryTrades =>
              simp only [handleLoggedInTradeCommand, withSession, connected]
              refine forwardsOnce_submit connected ids _ _ _ rfl ?_ _
              simp [TradeSessionCommand.ctpRequest, TradeSession.ids, account]

theorem forwarded_reportPushes (orderRegistry : OrderRegistry) (event : TradeSessionEvent) :
    (reportPushes world orderRegistry event).filterMap Effect.forwarded = [] := by
  rw [List.filterMap_eq_nil_iff]
  intro effect member
  rcases mem_reportPushes.mp member with ⟨context, message, -, -, rfl⟩
  rfl

theorem forwarded_replies (orderRegistry : OrderRegistry) (driver : Driver)
    (event : TradeSessionEvent) :
    (driver.replies world orderRegistry event).filterMap Effect.forwarded = [] := by
  cases driver <;> cases event <;>
    simp [Driver.replies, queryAccountAnswer, queryPositionsAnswer, queryOrdersAnswer,
      queryTradesAnswer, sendError, Effect.forwarded, apply_ite]

/-- A login sends no request but its own. -/
theorem forwarded_login (session : TradeSession) (rc : Int32) (call : String)
    {field : Int32 → CtpRequest} (own : ∀ rid, (field rid).ofLogin = true)
    (effects : List Effect) (quiet : effects.filterMap Effect.forwarded = [])
    (driver : Int32 → Driver) :
    (actor.submit effects (session.request rc call none field) driver).outputs.filterMap
      Effect.forwarded = [] := by
  rw [TradeActor.submit_outputs, List.filterMap_append, quiet, List.nil_append]
  cases loaded : session.api with
  | none => simp [TradeActor.requested, TradeSession.request, loaded]
  | some api => simp [TradeActor.requested, TradeSession.request, loaded, Effect.forwarded, own]

theorem forwarded_driveTradeLoginEvent (session : TradeSession) (credentials : AccountCredentials)
    (replyTo : EnvelopeTx) (loginIds : Option (Int32 × Int32)) (event : TradeSessionEvent) :
    (driveTradeLoginEvent world actor session credentials replyTo loginIds
      event).outputs.filterMap Effect.forwarded = [] := by
  cases event with
  | frontConnected | authenticateOk | loginOk =>
      exact forwarded_login session world.rc _ (fun _ => rfl) _ rfl _
  | _ => rfl

/-- An event makes the actor forward nothing. -/
theorem forwarded_event (accountId : AccountId) (actor : TradeActor) (world : World)
    (event : TradeSessionEvent) :
    ((TradeActor.machine accountId).emits actor (world, .event event)).filterMap
      Effect.forwarded = [] := by
  have stepped := TradeActor.step_case accountId actor (world, .event event)
  generalize (TradeActor.machine accountId).next actor (world, .event event) = next at stepped
  generalize (TradeActor.machine accountId).emits actor (world, .event event) = effects
    at stepped ⊢
  cases stepped with
  | ignoredEvent => rfl
  | idleEvent =>
      cases event with
      | orderReturn report =>
          exact forwarded_reportPushes actor.orderRegistry (.orderReturn report)
      | tradeReturn report =>
          exact forwarded_reportPushes actor.orderRegistry (.tradeReturn report)
      | _ => rfl
  | requestEvent _ driver waits request =>
      rw [List.filterMap_append, forwarded_reportPushes, forwarded_replies]
      rfl
  | loginEvent _ session credentials replyTo loginIds =>
      rw [forwarded_reportLoginFailure, forwarded_driveTradeLoginEvent]

/-- A command makes it forward what it stands for, once, or nothing. -/
theorem forwardsOnce_command
    (own : ∀ session, actor.session = some session →
      session.config.accountId = accountId.asStr) (command : TradeSessionCommand) :
    ForwardsOnce accountId actor command
      ((TradeActor.machine accountId).emits actor (world, .command command)) := by
  have stepped := TradeActor.step_case accountId actor (world, .command command)
  generalize (TradeActor.machine accountId).next actor (world, .command command) = next
    at stepped
  generalize (TradeActor.machine accountId).emits actor (world, .command command) = effects
    at stepped ⊢
  cases stepped with
  | ignoredCommand => exact .inl rfl
  | command => exact forwardsOnce_handleTradeCommand own command

end Actor

/-! ## Where the session comes from -/

/-- The ids of a login on the account: those of a `LoginOk` of the run, or zeros, as where
the settlement is confirmed to a login that has seen none. -/
def AnsweredIds (accountId : AccountId) (history : List SystemInput) (ids : Int32 × Int32) :
    Prop :=
  ids = (0, 0) ∨ ∃ surroundings tradingDay,
    .event accountId surroundings (.loginOk tradingDay ids.1 ids.2) ∈ history

theorem AnsweredIds.mono {accountId : AccountId} {history : List SystemInput}
    {ids : Int32 × Int32} (answered : AnsweredIds accountId history ids)
    (input : SystemInput) : AnsweredIds accountId (history ++ [input]) ids := by
  refine answered.imp_right ?_
  rintro ⟨surroundings, tradingDay, came⟩
  exact ⟨surroundings, tradingDay, List.mem_append_left _ came⟩

/-- The session of an actor was made by a login asked for on the account, and its login ids
are those of a login there. -/
structure SessionTraced (config : ServerConfig) (accountId : AccountId)
    (history : List SystemInput) (actor : TradeActor) : Prop where
  made : ∀ session, actor.session = some session → ∃ credentials replyTo,
    Asked config history accountId (.login credentials replyTo) ∧
      session.config = tradeSessionConfig credentials
  loggedIn : ∀ ids, actor.loggedInIds = some ids → AnsweredIds accountId history ids
  seen : ∀ credentials replyTo ids,
    actor.driver = some (.tradeLogin credentials replyTo (some ids)) →
      AnsweredIds accountId history ids

section Traced

variable {config : ServerConfig} {accountId : AccountId} {history : List SystemInput}
variable {actor : TradeActor}

theorem SessionTraced.mono (traced : SessionTraced config accountId history actor)
    (input : SystemInput) : SessionTraced config accountId (history ++ [input]) actor where
  made session connected := by
    rcases traced.made session connected with ⟨credentials, replyTo, asked, same⟩
    exact ⟨credentials, replyTo, asked.mono input, same⟩
  loggedIn ids loggedIn := (traced.loggedIn ids loggedIn).mono input
  seen credentials replyTo ids suspended :=
    (traced.seen credentials replyTo ids suspended).mono input

/-- The session of the actor is one of its account. -/
theorem SessionTraced.own (traced : SessionTraced config accountId history actor)
    (session : TradeSession) (connected : actor.session = some session) :
    session.config.accountId = accountId.asStr := by
  rcases traced.made session connected with ⟨credentials, replyTo, asked, same⟩
  have about : credentials.accountId = accountId := asked.isFor
  rw [same, tradeSessionConfig, about]

/-- A login that connects a session is the input. -/
theorem connects_inversion {input : World × TradeInput} {credentials : AccountCredentials}
    (connects : actor.connects input = some credentials) :
    ∃ replyTo, input.2 = .command (.login credentials replyTo) := by
  rcases input with ⟨world, command | event⟩
  · cases command with
    | login given replyTo =>
        simp only [TradeActor.connects, Option.ite_none_right_eq_some,
          Option.some.injEq] at connects
        exact ⟨replyTo, by rw [connects.2]⟩
    | _ => cases connects
  · cases connects

/-- An input that was asked for, or came from the session, keeps the session traced. -/
theorem sessionTraced_next (traced : SessionTraced config accountId history actor)
    (world : World) {taken : TradeInput}
    (asked : ∀ command, taken = .command command → Asked config history accountId command)
    (came : ∀ event, taken = .event event →
      ∃ surroundings, .event accountId surroundings event ∈ history) :
    SessionTraced config accountId history
      ((TradeActor.machine accountId).next actor (world, taken)) where
  made session connected := by
    have setup := setup_next accountId actor (world, taken)
    rw [connected, Option.map_some] at setup
    cases connects : actor.connects (world, taken) with
    | some credentials =>
        rw [connects, Option.map_some, Option.some_or, Option.some.injEq] at setup
        rcases connects_inversion connects with ⟨replyTo, login⟩
        exact ⟨credentials, replyTo, asked _ login, congrArg Prod.fst setup⟩
    | none =>
        rw [connects, Option.map_none, Option.none_or] at setup
        split at setup
        · cases setup
        · rcases Option.map_eq_some_iff.mp setup.symm with ⟨earlier, present, same⟩
          rcases traced.made earlier present with ⟨credentials, replyTo, login, made⟩
          exact ⟨credentials, replyTo, login, (congrArg Prod.fst same).symm.trans made⟩
  loggedIn ids later := by
    rw [TradeActor.loggedInIds_next] at later
    cases completed : actor.completes taken with
    | some confirmed =>
        rw [completed, Option.some_or, Option.some.injEq] at later
        rcases TradeActor.completes_inversion completed with
          ⟨session, credentials, replyTo, loginIds, -, -, suspended, same⟩
        rw [← later, same]
        cases loginIds with
        | none => exact .inl rfl
        | some seen => exact traced.seen credentials replyTo seen suspended
    | none =>
        rw [completed, Option.none_or] at later
        split at later
        · cases later
        · exact traced.loggedIn ids later
  seen credentials replyTo ids suspended := by
    rcases seen_of_next accountId actor (world, taken) suspended with word | ⟨_, _, earlier⟩
    · cases taken with
      | command => cases word
      | event event =>
          cases event with
          | loginOk tradingDay frontId sessionId =>
              cases word
              rcases came _ rfl with ⟨surroundings, member⟩
              exact .inr ⟨surroundings, tradingDay, member⟩
          | _ => cases word
    · exact traced.seen _ _ ids earlier

end Traced

/-! ## The server -/

/-- The commands an envelope stands for on an account, where the configuration permits them
to its client. -/
def Envelope.commandsOn (config : ServerConfig) (accountId : AccountId) (outbound : EnvelopeTx)
    (envelope : Envelope) : List TradeSessionCommand :=
  match envelope.clientId, envelope.payload.accountCall with
  | some clientId, some (call, _) =>
      let command := call.command clientId outbound
      if call.accountId = accountId ∧
          (config.lastEntry clientId accountId).any fun entry =>
            command.allowedBy entry.permission then
        [command]
      else []
  | _, _ => []

/-- The commands an input offers to the actor of an account. -/
def SystemInput.commandsOn (config : ServerConfig) (accountId : AccountId) :
    SystemInput → List TradeSessionCommand
  | .gateway _ (.envelope .trading _ outbound envelope) =>
      envelope.commandsOn config accountId outbound
  | _ => []

/-- The request the actor of an account sends, apart from those of its logins. -/
def SystemEffect.requestOn (accountId : AccountId) : SystemEffect → Option CtpRequest
  | .trade acting effect => if acting = accountId then effect.forwarded else none
  | .gateway _ => none

/-- A request carries out a command on an account: it is what the command asks for, with the
broker of a login asked for on the account and the ids of a login there. -/
def CarriesOut (config : ServerConfig) (accountId : AccountId) (history : List SystemInput)
    (command : TradeSessionCommand) (request : CtpRequest) : Prop :=
  ∃ ids credentials replyTo,
    Asked config history accountId (.login credentials replyTo) ∧
      ids.brokerId = credentials.brokerId ∧
      AnsweredIds accountId history (ids.frontId, ids.sessionId) ∧
      command.ctpRequest accountId ids = some request

theorem CarriesOut.mono {config : ServerConfig} {accountId : AccountId}
    {history : List SystemInput} {command : TradeSessionCommand} {request : CtpRequest}
    (carries : CarriesOut config accountId history command request) (input : SystemInput) :
    CarriesOut config accountId (history ++ [input]) command request := by
  rcases carries with ⟨ids, credentials, replyTo, asked, broker, answered, same⟩
  exact ⟨ids, credentials, replyTo, asked.mono input, broker, answered.mono input, same⟩

section Server

variable {config : ServerConfig} {accountId : AccountId}

theorem length_enqueued_perform (world : GatewayWorld) (state : ServerActorState)
    (clientId : ClientId) (replyTo : EnvelopeTx) (call : AccountCall) :
    (state.perform world clientId replyTo call).enqueued.length ≤ 1 := by
  have checked (check : Except String Unit) (accountId : AccountId)
      (command : TradeSessionCommand) :
      (state.sendChecked world check accountId command).enqueued.length ≤ 1 := by
    simp only [ServerActorState.sendChecked, ServerActorState.sendTradeCommand]
    split
    · simp
    · split
      · simp
      · split <;> simp
  cases call with
  | bindAccount credentials =>
      simp only [ServerActorState.perform, ServerActorState.bindAccount]
      split
      · simp
      · split
        · simp
        · split <;> simp
  | _ => exact checked _ _ _

/-- An envelope enqueues at most one command for an account. -/
theorem length_enqueuedFor (world : GatewayWorld) (kind : TcpEndpointKind) (peer : String)
    (state : ServerActorState) (outbound : EnvelopeTx) (envelope : Envelope) :
    (enqueuedFor accountId
      (handleEnvelope world kind peer state outbound envelope).effects).length ≤ 1 := by
  have sent (message : Message) (state : ServerActorState) :
      (enqueuedFor accountId (Handled.send world outbound message state []).effects).length ≤
        1 := by
    rw [enqueuedFor_send]
    exact Nat.zero_le 1
  have published (closed : Bool)
      (delta : ServerActorState × Option MarketDataSessionCommand) :
      (enqueuedFor accountId (Handled.publish closed delta).effects).length ≤ 1 := by
    rw [enqueuedFor_publish]
    exact Nat.zero_le 1
  simp only [handleEnvelope]
  split
  · exact sent _ _
  · exact sent _ _
  · split
    · exact sent _ _
    · exact published _ _
  · split
    · exact sent _ _
    · exact published _ _
  · split
    next call operation _ =>
      cases envelope.clientId with
      | none => exact sent _ _
      | some clientId =>
          rw [(handleAccountCall_perform world accountId state outbound clientId call operation).2]
          refine (List.length_filterMap_le _ _).trans ?_
          rw [List.length_map]
          exact length_enqueued_perform world state clientId outbound call
    · exact sent _ _
  · exact sent _ _

/-- What the gateway enqueues for an account is what its input offers. -/
theorem enqueuedFor_sublist {state : ServerActorState} (guarded : Guarded config state)
    (world : GatewayWorld) (input : GatewayInput) :
    (enqueuedFor accountId (gatewayStep state world input).2).Sublist
      (SystemInput.commandsOn config accountId (.gateway world input)) := by
  have offers (command : TradeSessionCommand)
      (member : command ∈ enqueuedFor accountId (gatewayStep state world input).2) :
      SystemInput.commandsOn config accountId (.gateway world input) = [command] := by
    rcases List.mem_filterMap.mp member with ⟨effect, emitted, addressed⟩
    cases effect with
    | publish | send => simp at addressed
    | enqueue target enqueued =>
        simp only [Option.ite_none_right_eq_some, Option.some.injEq] at addressed
        rcases addressed with ⟨rfl, rfl⟩
        cases input with
        | accountState => simp [gatewayStep] at emitted
        | disconnected => exact absurd emitted enqueue_mem_publish
        | envelope kind peer outbound envelope =>
            cases kind with
            | marketData => exact absurd emitted enqueue_notMem_marketData
            | trading =>
                rcases enqueued_of_handleEnvelope guarded emitted with
                  ⟨clientId, call, operation, sender, asks, about, rfl, entry, last, covered⟩
                subst about
                simp [SystemInput.commandsOn, Envelope.commandsOn, sender, asks, last, covered]
  have single : (enqueuedFor accountId (gatewayStep state world input).2).length ≤ 1 := by
    cases input with
    | accountState => exact Nat.zero_le 1
    | disconnected clientId =>
        simp only [gatewayStep, enqueuedFor_publish]
        exact Nat.zero_le 1
    | envelope kind peer outbound envelope =>
        exact length_enqueuedFor world kind peer state outbound envelope
  cases commands : enqueuedFor accountId (gatewayStep state world input).2 with
  | nil => exact List.nil_sublist _
  | cons command rest =>
      rw [commands] at single offers
      have alone : rest = [] := by
        simpa using single
      rw [alone, offers command List.mem_cons_self]

theorem guarded_act {system : ServerSystem} (guarded : Guarded config system.shared)
    (acting : AccountId) (surroundings : Surroundings) (inbox : List TradeSessionCommand)
    (taken : TradeInput) :
    Guarded config (system.act acting surroundings inbox taken).1.shared :=
  guarded_applyEffects guarded _

/-- Every step of the server keeps the shared state guarded. -/
theorem guarded_systemNext {config : ServerConfig} {system : ServerSystem}
    (guarded : Guarded config system.shared) (input : SystemInput) :
    Guarded config ((ServerSystem.machine config).next system input).shared := by
  cases input with
  | gateway world input => exact guarded_next config system.shared (world, input) guarded
  | command acting surroundings =>
      simp only [Machine.next, ServerSystem.machine, ServerSystem.step]
      split
      · exact guarded
      · split
        · exact guarded_act guarded _ _ _ _
        · exact guarded
  | event acting surroundings event => exact guarded_act guarded _ _ _ _

/-- What the actor of an account has sent carries out a part of the commands offered to it,
in the same order, and its inbox holds a part of those that come after. -/
structure Forwarded (config : ServerConfig) (accountId : AccountId) (system : ServerSystem)
    (history : List SystemInput) (emitted : List SystemEffect) : Prop where
  asked : AllAsked config system history
  traced : SessionTraced config accountId history (system.tasks accountId).actor
  forwarded : ∃ commands,
    (commands ++ (system.tasks accountId).inbox).Sublist
        (history.flatMap (·.commandsOn config accountId)) ∧
      List.Forall₂ (CarriesOut config accountId history) commands
        (emitted.filterMap (SystemEffect.requestOn accountId))

theorem forwarded_fromConfig (config : ServerConfig) (accountId : AccountId) :
    Forwarded config accountId (ServerSystem.machine config).init [] [] where
  asked := allAsked_fromConfig config
  traced := by
    refine ⟨?_, ?_, ?_⟩
    · intro session connected
      cases connected
    · intro ids loggedIn
      cases loggedIn
    · intro credentials replyTo ids suspended
      cases suspended
  forwarded := ⟨[], List.nil_sublist _, .nil⟩

variable {system : ServerSystem} {history : List SystemInput} {emitted : List SystemEffect}

/-- A step that sends nothing from the actor of the account, and adds to its inbox at most
what is offered, keeps the account of what was sent. -/
theorem Forwarded.silent (before : Forwarded config accountId system history emitted)
    (input : SystemInput) {next : ServerSystem} {effects : List SystemEffect}
    (asked : AllAsked config next (history ++ [input]))
    (traced : SessionTraced config accountId (history ++ [input])
      (next.tasks accountId).actor)
    (silent : effects.filterMap (SystemEffect.requestOn accountId) = [])
    (inbox : (next.tasks accountId).inbox.Sublist
      ((system.tasks accountId).inbox ++ input.commandsOn config accountId)) :
    Forwarded config accountId next (history ++ [input]) (emitted ++ effects) where
  asked := asked
  traced := traced
  forwarded := by
    rcases before.forwarded with ⟨commands, part, carried⟩
    refine ⟨commands, ?_, ?_⟩
    · rw [List.flatMap_append, List.flatMap_singleton]
      refine (inbox.append_left commands).trans ?_
      rw [← List.append_assoc]
      exact part.append_right _
    · rw [List.filterMap_append, silent, List.append_nil]
      exact carried.imp fun _ _ carries => carries.mono input

/-- What the actor of an account sends for an input. -/
theorem requestOn_act (acting : AccountId) (surroundings : Surroundings)
    (inbox : List TradeSessionCommand) (taken : TradeInput) :
    (system.act acting surroundings inbox taken).2.filterMap
        (SystemEffect.requestOn accountId) =
      if acting = accountId then
        ((TradeActor.machine acting).emits (system.tasks acting).actor
          ({ surroundings with shared := system.shared }, taken)).filterMap Effect.forwarded
      else [] := by
  simp only [ServerSystem.act, List.filterMap_map]
  split
  next same =>
    apply List.filterMap_congr
    intro effect _
    simp [SystemEffect.requestOn, same]
  next other =>
    rw [List.filterMap_eq_nil_iff]
    intro effect _
    simp [SystemEffect.requestOn, other]

/-- The actor of another account sends nothing for this one. -/
theorem Forwarded.elsewhere (before : Forwarded config accountId system history emitted)
    {acting : AccountId} (other : acting ≠ accountId) (input : SystemInput)
    (surroundings : Surroundings) (inbox : List TradeSessionCommand) (taken : TradeInput)
    (asked : AllAsked config (system.act acting surroundings inbox taken).1
      (history ++ [input])) :
    Forwarded config accountId (system.act acting surroundings inbox taken).1
      (history ++ [input]) (emitted ++ (system.act acting surroundings inbox taken).2) := by
  have untouched : (system.act acting surroundings inbox taken).1.tasks accountId =
      system.tasks accountId := by
    simp only [ServerSystem.act, Function.update_of_ne (Ne.symm other)]
  apply before.silent input asked
  · rw [untouched]
    exact before.traced.mono input
  · rw [requestOn_act, if_neg other]
  · rw [untouched]
    exact List.sublist_append_left _ _

/-- The actor of the account takes a command from its inbox. -/
theorem Forwarded.command (before : Forwarded config accountId system history emitted)
    (surroundings : Surroundings) {command : TradeSessionCommand}
    {rest : List TradeSessionCommand}
    (waiting : (system.tasks accountId).inbox = command :: rest) (input : SystemInput)
    (asked : AllAsked config (system.act accountId surroundings rest (.command command)).1
      (history ++ [input])) :
    Forwarded config accountId (system.act accountId surroundings rest (.command command)).1
      (history ++ [input])
      (emitted ++ (system.act accountId surroundings rest (.command command)).2) := by
  have known : Asked config (history ++ [input]) accountId command :=
    (before.asked.inboxes accountId command (by simp [waiting])).mono input
  have traced : SessionTraced config accountId (history ++ [input])
      ((system.act accountId surroundings rest (.command command)).1.tasks accountId).actor := by
    simp only [ServerSystem.act, Function.update_self]
    apply sessionTraced_next (before.traced.mono input)
      { surroundings with shared := system.shared }
    · rintro _ ⟨⟩
      exact known
    · intro event absent
      cases absent
  have left : ((system.act accountId surroundings rest (.command command)).1.tasks
      accountId).inbox = rest := by
    simp only [ServerSystem.act, Function.update_self]
  let world : World := { surroundings with shared := system.shared }
  have sent : (system.act accountId surroundings rest (.command command)).2.filterMap
      (SystemEffect.requestOn accountId) =
        ((TradeActor.machine accountId).emits (system.tasks accountId).actor
          (world, .command command)).filterMap Effect.forwarded := by
    rw [requestOn_act, if_pos rfl]
  have handled : ForwardsOnce accountId (system.tasks accountId).actor command
      ((TradeActor.machine accountId).emits (system.tasks accountId).actor
        (world, .command command)) := forwardsOnce_command before.traced.own command
  rcases handled with nothing | ⟨session, loggedInIds, request, connected, ids, asks, once⟩
  · apply before.silent input asked traced (sent.trans nothing)
    rw [left, waiting]
    exact ((List.sublist_cons_self command rest)).trans (List.sublist_append_left _ _)
  · rcases before.forwarded with ⟨commands, part, carried⟩
    refine ⟨asked, traced, commands ++ [command], ?_, ?_⟩
    · rw [left, List.append_assoc, List.singleton_append, ← waiting, List.flatMap_append]
      exact part.trans (List.sublist_append_left _ _)
    · rw [List.filterMap_append, sent, once]
      apply List.rel_append
      · exact carried.imp fun _ _ carries => carries.mono input
      · rcases before.traced.made session connected with ⟨credentials, replyTo, login, made⟩
        refine .cons ⟨session.ids loggedInIds, credentials, replyTo, login.mono input, ?_,
          (before.traced.loggedIn loggedInIds ids).mono input, asks⟩ .nil
        rw [TradeSession.ids, made]
        rfl

/-- The actor of the account takes an event of its session. -/
theorem Forwarded.event (before : Forwarded config accountId system history emitted)
    (surroundings : Surroundings) (event : TradeSessionEvent)
    (asked : AllAsked config
      (system.act accountId surroundings (system.tasks accountId).inbox (.event event)).1
      (history ++ [.event accountId surroundings event])) :
    Forwarded config accountId
      (system.act accountId surroundings (system.tasks accountId).inbox (.event event)).1
      (history ++ [.event accountId surroundings event])
      (emitted ++
        (system.act accountId surroundings (system.tasks accountId).inbox (.event event)).2) := by
  apply before.silent _ asked
  · simp only [ServerSystem.act, Function.update_self]
    apply sessionTraced_next (before.traced.mono _)
      { surroundings with shared := system.shared }
    · intro command absent
      cases absent
    · rintro _ ⟨⟩
      exact ⟨surroundings, List.mem_append_right _ List.mem_cons_self⟩
  · rw [requestOn_act, if_pos rfl]
    exact forwarded_event accountId _ _ event
  · simp only [ServerSystem.act, Function.update_self]
    exact List.sublist_append_left _ _

/-- Every step of the server keeps the account of what was sent. -/
theorem forwarded_next (before : Forwarded config accountId system history emitted)
    (input : SystemInput) :
    Forwarded config accountId ((ServerSystem.machine config).next system input)
      (history ++ [input]) (emitted ++ (ServerSystem.machine config).emits system input) := by
  have asked := allAsked_next config system history input before.asked
  have stays : AllAsked config system (history ++ [input]) →
      Forwarded config accountId system (history ++ [input]) (emitted ++ []) := fun asked =>
    before.silent input asked (before.traced.mono input) rfl (List.sublist_append_left _ _)
  cases input with
  | gateway world input =>
      apply before.silent _ asked (before.traced.mono _)
      · simp [Machine.emits, ServerSystem.machine, ServerSystem.step, List.filterMap_map,
          SystemEffect.requestOn]
      · exact (enqueuedFor_sublist before.asked.guarded world input).append_left _
  | command acting surroundings =>
      simp only [Machine.next, Machine.emits, ServerSystem.machine, ServerSystem.step]
        at asked ⊢
      split at asked
      next empty => simpa only [empty] using stays asked
      next command rest waiting =>
        split at asked
        next takes =>
          rw [if_pos takes]
          by_cases own : acting = accountId
          · subst own
            exact before.command surroundings waiting _ asked
          · exact before.elsewhere own _ surroundings rest (.command command) asked
        next busy =>
          rw [if_neg busy]
          exact stays asked
  | event acting surroundings event =>
      by_cases own : acting = accountId
      · subst own
        exact before.event surroundings event asked
      · exact before.elsewhere own _ surroundings _ (.event event) asked

end Server

/-- In every run of the server, the order inserts, order actions and queries that the actor of
an account sends are, one for one and in the same order, what a part of the commands asks for
that permitted envelopes about the account brought over the trading endpoint: nothing is
invented, nothing is sent twice, nothing overtakes.  Each request is for the account, with the
broker of a login asked for on it and the front and session of a login there. -/
theorem requests_forwarded_in_order (config : ServerConfig) (accountId : AccountId)
    (inputs : List SystemInput) :
    let server := ServerSystem.machine config
    ∃ commands, commands.Sublist (inputs.flatMap (·.commandsOn config accountId)) ∧
      List.Forall₂ (CarriesOut config accountId inputs) commands
        ((server.outputs server.init inputs).filterMap (SystemEffect.requestOn accountId)) := by
  intro server
  have preserved : ∀ system history emitted input,
      Forwarded config accountId system history emitted →
      Forwarded config accountId (server.next system input) (history ++ [input])
        (emitted ++ server.emits system input) :=
    fun _ _ _ input before => forwarded_next before input
  have after := server.invariant_history preserved (forwarded_fromConfig config accountId) inputs
  rcases after.forwarded with ⟨commands, part, carried⟩
  exact ⟨commands, (List.sublist_append_left _ _).trans part, carried⟩

end CtpSystem
