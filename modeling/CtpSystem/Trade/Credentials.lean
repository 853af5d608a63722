import CtpSystem.Trade.Steps

/-!
# Logins and their credentials

A session is made with the credentials of one login and may be used by a later one.  A
history of the run remembers which login connected the session and which is being
handled.  Runs that differ in credentials only are compared with the credentials blanked.
-/

namespace CtpSystem

open Reactive

/-! ## Login requests -/

/-- The requests that carry credentials. -/
def CtpRequest.isLogin : CtpRequest → Bool
  | .authenticate _ _ _ _ _ | .userLogin _ _ _ _ => true
  | _ => false

/-- A request carries the credentials it is given, as far as it carries any. -/
def CtpRequest.carries (credentials : AccountCredentials) : CtpRequest → Bool
  | .authenticate brokerId _ _ authCode appId =>
      brokerId = credentials.brokerId && authCode = credentials.authCode &&
        appId = credentials.appId
  | .userLogin brokerId _ password _ =>
      brokerId = credentials.brokerId && password = credentials.password
  | _ => true

/-- The login request an effect sends. -/
def Effect.loginRequest : Effect → Option CtpRequest
  | .request sent _ => if sent.isLogin then some sent else none
  | _ => none

/-- The login request a session sends on an event. -/
def TradeSession.loginRequest (session : TradeSession) : TradeSessionEvent → Option CtpRequest
  | .frontConnected =>
      some (.authenticate session.config.brokerId session.config.accountId "quantSystem"
        session.config.authCode session.config.appId)
  | .authenticateOk =>
      some (.userLogin session.config.brokerId session.config.accountId
        session.config.password "quantSystem")
  | _ => none

namespace TradeActor

/-- The session of a login that is being handled. -/
def loggingIn (actor : TradeActor) : Option TradeSession :=
  match actor.driver with
  | some (.tradeLogin _ _ _) => actor.session.filter (·.api.isSome)
  | _ => none

/-- The login request an input causes. -/
def requestsLogin (actor : TradeActor) : TradeInput → Option CtpRequest
  | .event event => actor.loggingIn.bind (·.loginRequest event)
  | .command _ => none

end TradeActor

theorem CtpRequest.isLogin_of_asks {request : CtpRequest} (asks : request.asks = true) :
    request.isLogin = false := by
  cases request <;> first | rfl | cases asks

/-- No command sends a login request at once. -/
theorem loginRequest_command (accountId : AccountId) (world : World) (actor : TradeActor)
    (command : TradeSessionCommand) :
    (handleTradeCommand accountId world actor command).outputs.filterMap
      Effect.loginRequest = [] := by
  rw [List.filterMap_eq_nil_iff]
  intro effect emitted
  have handled := tradeCommand_case accountId world actor command
  generalize same : handleTradeCommand accountId world actor command = handling
    at handled emitted
  cases handled with
  | login credentials replyTo loggedOut =>
      rcases handleTradeCommand_loggedOut accountId world loggedOut (same ▸ emitted) with
        ⟨message, rfl⟩
      rfl
  | rejected | known | logout =>
      rw [List.mem_singleton.mp emitted]
      rfl
  | unconnected => cases emitted
  | placed clientId order replyTo session rid =>
      rw [TradeSession.insertOrder, TradeActor.finish_outputs,
        TradeActor.mem_requested_request] at emitted
      rw [emitted.2]
      rfl
  | unplaced clientId order replyTo session message =>
      rcases List.mem_append.mp emitted with requested | reported
      · rw [TradeSession.insertOrder, TradeActor.mem_requested_request] at requested
        rw [requested.2]
        rfl
      · rw [List.mem_singleton.mp reported]
        rfl
  | request _ session call pending field driver _ _ _ _ asks =>
      rw [TradeActor.submit_outputs, List.nil_append, TradeActor.mem_requested_request]
        at emitted
      rw [emitted.2, Effect.loginRequest,
        CtpRequest.isLogin_of_asks (asks (session.requestId + 1))]
      rfl

theorem loginRequest_requested (session : TradeSession) (rc : Int32) (call : String)
    (pending : Option PendingQuery) (field : Int32 → CtpRequest) :
    (TradeActor.requested (session.request rc call pending field)).filterMap
        Effect.loginRequest =
      (if session.api.isSome then some (field (session.requestId + 1)) else none).toList.filter
        CtpRequest.isLogin := by
  cases loaded : session.api with
  | none =>
      simp only [TradeSession.request, loaded]
      rfl
  | some api =>
      simp only [TradeSession.request, loaded, TradeActor.requested, List.map_cons,
        List.map_nil, Option.isSome_some, if_true, Option.toList_some]
      cases login : (field (session.requestId + 1)).isLogin with
      | true => simp [Effect.loginRequest, login]
      | false => simp [Effect.loginRequest, login]

/-- In a login, the session sends the request its event calls for. -/
theorem loginRequest_loginEvent (accountId : AccountId) (world : World) (actor : TradeActor)
    (session : TradeSession) (credentials : AccountCredentials) (replyTo : EnvelopeTx)
    (loginIds : Option (Int32 × Int32)) (event : TradeSessionEvent) :
    (reportLoginFailure accountId world replyTo
        (driveTradeLoginEvent world actor session credentials replyTo loginIds
          event)).outputs.filterMap Effect.loginRequest =
      (if session.api.isSome then session.loginRequest event else none).toList := by
  have reported (login : Handling) :
      (reportLoginFailure accountId world replyTo login).outputs.filterMap
        Effect.loginRequest = login.outputs.filterMap Effect.loginRequest := by
    rw [reportLoginFailure]
    split
    · rw [List.filterMap_append]
      exact List.append_nil _
    · rfl
  rw [reported]
  cases event with
  | frontConnected | authenticateOk | loginOk =>
      simp only [driveTradeLoginEvent, TradeActor.submit_outputs, List.filterMap_append,
        TradeSession.authenticate, TradeSession.login, TradeSession.confirmSettlement,
        loginRequest_requested]
      cases session.api <;> rfl
  | _ =>
      cases session.api <;> rfl

/-- The login requests of a step. -/
theorem loginRequests_emits (accountId : AccountId) (actor : TradeActor)
    (input : World × TradeInput) :
    ((TradeActor.machine accountId).emits actor input).filterMap Effect.loginRequest =
      (actor.requestsLogin input.2).toList := by
  rcases input with ⟨world, input⟩
  have stepped := TradeActor.step_case accountId actor (world, input)
  generalize (TradeActor.machine accountId).next actor (world, input) = next at stepped
  generalize (TradeActor.machine accountId).emits actor (world, input) = effects
    at stepped ⊢
  have pushed (event : TradeSessionEvent) : ∀ effect ∈
      reportPushes world actor.orderRegistry event, effect.loginRequest = none := by
    intro effect member
    rcases mem_reportPushes.mp member with ⟨context, message, -, -, rfl⟩
    rfl
  cases stepped with
  | ignoredCommand => rfl
  | ignoredEvent event deaf =>
      have absent : actor.loggingIn = none := by
        rw [TradeActor.takesEvent] at deaf
        cases connected : actor.session <;> cases suspended : actor.driver <;>
          simp_all [TradeActor.loggingIn]
        rename_i driver
        cases driver <;> rfl
      simp [TradeActor.requestsLogin, absent]
  | command command idle => exact loginRequest_command accountId world actor command
  | idleEvent event idle connected loggedIn =>
      have absent : actor.loggingIn = none := by simp [TradeActor.loggingIn, idle]
      simp only [TradeActor.requestsLogin, absent, Option.bind_none, Option.toList_none,
        List.filterMap_eq_nil_iff]
      intro effect emitted
      rcases idleEvent_outputs emitted with reported | ⟨-, rfl⟩
      · exact pushed event effect reported
      · rfl
  | requestEvent event driver waits request =>
      have absent : actor.loggingIn = none := by
        rw [TradeActor.loggingIn, waits.2]
        cases driver <;> first | rfl | cases request
      simp only [TradeActor.requestsLogin, absent, Option.bind_none, Option.toList_none,
        List.filterMap_eq_nil_iff]
      intro effect emitted
      rcases List.mem_append.mp emitted with reported | answered
      · exact pushed event effect reported
      · rcases Driver.mem_replies answered with ⟨replyTo, message, rfl⟩
        rfl
  | loginEvent event session credentials replyTo loginIds connected suspended =>
      rw [loginRequest_loginEvent]
      simp only [TradeActor.requestsLogin, TradeActor.loggingIn, suspended, connected,
        Option.filter_some]
      cases session.api.isSome <;> rfl

/-! ## What a run remembers -/

/-- The login that connected the session, and the login taken last. -/
structure LoginHistory where
  connected : Option AccountCredentials := none
  handled : Option AccountCredentials := none

/-- The credentials of a login command the actor takes. -/
def TradeActor.takesLogin (actor : TradeActor) : TradeInput → Option AccountCredentials
  | .command (.login credentials _) =>
      if actor.takesCommand then some credentials else none
  | _ => none

/-- The history after one step. -/
def LoginHistory.record (history : LoginHistory) (actor : TradeActor)
    (input : World × TradeInput) : LoginHistory where
  connected := (actor.connects input).or history.connected
  handled := (actor.takesLogin input.2).or history.handled

/-- The actor of an account, watched for the logins behind its requests. -/
def watchCredentials (accountId : AccountId) :
    Machine (TradeActor × LoginHistory) (World × TradeInput) Effect :=
  (TradeActor.machine accountId).observe {} LoginHistory.record

/-- Every login request carries the credentials of the login being handled. -/
def CarriesCredentials (accountId : AccountId) (watched : TradeActor × LoginHistory)
    (input : World × TradeInput) : Prop :=
  ∀ request ∈ ((TradeActor.machine accountId).emits watched.1 input).filterMap
      Effect.loginRequest,
    watched.2.handled.any (CtpRequest.carries · request) = true

instance (accountId : AccountId) (watched : TradeActor × LoginHistory)
    (input : World × TradeInput) : Decidable (CarriesCredentials accountId watched input) :=
  inferInstanceAs (Decidable (∀ request ∈ _, Option.any _ _ = true))

/-- Credentials that agree in what the request an input causes in a login reads. -/
def AccountCredentials.agreeOn (left right : AccountCredentials) : TradeInput → Bool
  | .event .frontConnected =>
      left.brokerId = right.brokerId && left.authCode = right.authCode &&
        left.appId = right.appId
  | .event .authenticateOk =>
      left.brokerId = right.brokerId && left.password = right.password
  | _ => true

/-- The login that connected the session agrees with the one being handled, where the
session is about to send a login request. -/
def SessionFits (watched : TradeActor × LoginHistory) (input : World × TradeInput) : Prop :=
  watched.1.loggingIn.isSome →
    ∀ connected ∈ watched.2.connected, ∀ handled ∈ watched.2.handled,
      connected.agreeOn handled input.2 = true

instance (watched : TradeActor × LoginHistory) (input : World × TradeInput) :
    Decidable (SessionFits watched input) :=
  inferInstanceAs (Decidable (_ → ∀ connected ∈ watched.2.connected,
    ∀ handled ∈ watched.2.handled, AccountCredentials.agreeOn _ _ _ = true))

/-! ## The session and the login behind a request -/

/-- What the history says about the actor: which login its session was connected by, and
which one it is handling. -/
structure CredentialsTraced (watched : TradeActor × LoginHistory) : Prop where
  session : ∀ session, watched.1.session = some session →
    watched.2.connected.map tradeSessionConfig = some session.config
  login : ∀ credentials replyTo loginIds,
    watched.1.driver = some (.tradeLogin credentials replyTo loginIds) →
      watched.2.handled = some credentials

/-- The session of a login that is being handled, with the login. -/
theorem loggingIn_inversion {actor : TradeActor} {session : TradeSession}
    (loggingIn : actor.loggingIn = some session) :
    actor.session = some session ∧
      ∃ credentials replyTo loginIds,
        actor.driver = some (.tradeLogin credentials replyTo loginIds) := by
  rw [TradeActor.loggingIn] at loggingIn
  split at loggingIn
  next credentials replyTo loginIds suspended =>
    exact ⟨(Option.filter_eq_some_iff.mp loggingIn).1, credentials, replyTo, loginIds,
      suspended⟩
  next => cases loggingIn

theorem credentialsTraced_next (accountId : AccountId) (watched : TradeActor × LoginHistory)
    (input : World × TradeInput) (traced : CredentialsTraced watched) :
    CredentialsTraced ((watchCredentials accountId).next watched input) := by
  rcases watched with ⟨actor, history⟩
  simp only [watchCredentials, Machine.observe_next]
  constructor
  · intro session present
    simp only [LoginHistory.record]
    have setup := setup_next accountId actor input
    rw [present, Option.map_some] at setup
    cases connected : actor.connects input with
    | some credentials =>
        rw [connected, Option.map_some, Option.some_or, Option.some.injEq] at setup
        exact congrArg some (congrArg Prod.fst setup.symm)
    | none =>
        rw [connected, Option.map_none, Option.none_or] at setup
        split at setup
        · cases setup
        · rcases Option.map_eq_some_iff.mp setup.symm with ⟨earlier, there, same⟩
          rw [Option.none_or, traced.session earlier there]
          exact congrArg some (congrArg Prod.fst same)
  · intro credentials replyTo loginIds handled
    simp only [LoginHistory.record]
    rcases login_of_next accountId actor input handled with ⟨idle, -, taken⟩ | ⟨ids, earlier⟩
    · simp [TradeActor.takesLogin, taken, TradeActor.takesCommand, idle]
    · have busy : actor.takesLogin input.2 = none := by
        simp only [TradeActor.takesLogin, TradeActor.takesCommand, earlier]
        split <;> rfl
      rw [busy, Option.none_or]
      exact traced.login credentials replyTo ids earlier

/-- A step carries the credentials of the login being handled exactly when the session
was connected by a login that agrees with it. -/
theorem carriesCredentials_iff (accountId : AccountId) (watched : TradeActor × LoginHistory)
    (input : World × TradeInput) (traced : CredentialsTraced watched) :
    CarriesCredentials accountId watched input ↔ SessionFits watched input := by
  rcases watched with ⟨actor, history⟩
  rcases input with ⟨world, input⟩
  rw [CarriesCredentials, loginRequests_emits]
  cases input with
  | command command =>
      refine iff_of_true (List.forall_mem_nil _) ?_
      intro _ _ _ _ _
      rfl
  | event event =>
      cases loggingIn : actor.loggingIn with
      | none =>
          have silent : actor.requestsLogin (.event event) = none := by
            rw [TradeActor.requestsLogin, loggingIn]
            rfl
          rw [silent]
          refine iff_of_true (List.forall_mem_nil _) ?_
          intro sends
          simp [loggingIn] at sends
      | some session =>
          rcases loggingIn_inversion loggingIn with
            ⟨present, credentials, replyTo, loginIds, suspended⟩
          have handled : history.handled = some credentials :=
            traced.login credentials replyTo loginIds suspended
          rcases Option.map_eq_some_iff.mp (traced.session session present) with
            ⟨made, present, config⟩
          have connected : history.connected = some made := present
          have fits : SessionFits (actor, history) (world, .event event) ↔
              made.agreeOn credentials (.event event) = true := by
            simp [SessionFits, loggingIn, handled, connected]
          rw [fits, TradeActor.requestsLogin, loggingIn, Option.bind_some]
          simp only [handled, Option.any_some]
          cases event <;>
            simp [TradeSession.loginRequest, CtpRequest.carries, AccountCredentials.agreeOn,
              ← config, tradeSessionConfig]

/-- A new actor has no session and handles no login. -/
theorem credentialsTraced_init (accountId : AccountId) :
    CredentialsTraced (watchCredentials accountId).init := by
  constructor
  · intro session present
    cases present
  · intro credentials replyTo loginIds suspended
    cases suspended

/-! ## Credentials blanked -/

/-- Credentials of the same account with everything else blanked. -/
def AccountCredentials.redact (credentials : AccountCredentials) : AccountCredentials :=
  ⟨credentials.accountId, "", "", "", ""⟩

def TradeSessionConfig.redact (config : TradeSessionConfig) : TradeSessionConfig :=
  ⟨config.accountId, "", "", "", ""⟩

def TradeSession.redact (session : TradeSession) : TradeSession :=
  { session with config := session.config.redact }

def Driver.redact : Driver → Driver
  | .tradeLogin credentials replyTo loginIds =>
      .tradeLogin credentials.redact replyTo loginIds
  | driver => driver

def TradeActor.redact (actor : TradeActor) : TradeActor :=
  { actor with
    session := actor.session.map TradeSession.redact
    driver := actor.driver.map Driver.redact }

def TradeSessionCommand.redact : TradeSessionCommand → TradeSessionCommand
  | .login credentials replyTo => .login credentials.redact replyTo
  | command => command

def TradeInput.redact : TradeInput → TradeInput
  | .command taken => .command taken.redact
  | .event taken => .event taken

section Redacted

variable {actor : TradeActor} {effects effects' : List Effect}

/-- A request does not depend on the credentials but for its fields. -/
theorem request_redact (session : TradeSession) (rc : Int32) (call : String)
    (pending : Option PendingQuery) (field field' : Int32 → CtpRequest) :
    (session.redact.request rc call pending field').session =
        (session.request rc call pending field).session.redact ∧
      (session.redact.request rc call pending field').result =
        (session.request rc call pending field).result := by
  cases loaded : session.api <;>
    simp only [TradeSession.request, TradeSession.redact, loaded, and_self]

theorem redact_submit {called called' : TradeSession.Called} {driver driver' : Int32 → Driver}
    (same : called'.session = called.session.redact ∧ called'.result = called.result)
    (drivers : ∀ rid, (driver rid).redact = driver' rid) :
    (actor.submit effects called driver).state.redact =
      (actor.redact.submit effects' called' driver').state := by
  rcases same with ⟨session, result⟩
  cases outcome : called.result with
  | error message =>
      rw [TradeActor.submit_of_error outcome, TradeActor.submit_of_error (result.trans outcome),
        session]
      rfl
  | ok rid =>
      rw [TradeActor.submit_of_ok outcome, TradeActor.submit_of_ok (result.trans outcome),
        session, ← drivers]
      rfl

theorem redact_withSession {body body' : TradeSession → Handling}
    (bodies : ∀ session, actor.session = some session →
      (body session).state.redact = (body' session.redact).state) :
    (withSession actor body).state.redact = (withSession actor.redact body').state := by
  cases present : actor.session with
  | none =>
      have absent : actor.redact.session = none := by simp [TradeActor.redact, present]
      simp only [withSession, present, absent]
      rfl
  | some session =>
      have there : actor.redact.session = some session.redact := by
        simp [TradeActor.redact, present]
      simp only [withSession, present, there]
      exact bodies session present

end Redacted

/-- What a command does to the actor does not depend on the credentials. -/
theorem redact_handleTradeCommand (accountId : AccountId) (world : World)
    (actor : TradeActor) (command : TradeSessionCommand) :
    (handleTradeCommand accountId world actor command).state.redact =
      (handleTradeCommand accountId world actor.redact command.redact).state := by
  have same : actor.redact.loggedInIds = actor.loggedInIds := rfl
  cases ids : actor.loggedInIds with
  | none =>
      simp only [handleTradeCommand, same, ids, Option.isSome_none, Bool.false_eq_true,
        if_false]
      cases command with
      | login credentials replyTo =>
          simp only [TradeSessionCommand.redact, handleLoggedOutTradeCommand,
            reportLoginFailure_state, driveTradeLogin, same, ids]
          cases present : actor.session with
          | some session =>
              have there : actor.redact.session = some session.redact := by
                simp [TradeActor.redact, present]
              simp only [there]
              rfl
          | none =>
              have absent : actor.redact.session = none := by
                simp [TradeActor.redact, present]
              simp only [absent]
              cases world.connect <;> rfl
      | placeOrder | cancelOrder | queryAccount | queryPosition | queryOrders | queryTrades
      | logout => rfl
  | some ids =>
      simp only [handleTradeCommand, same, ids, Option.isSome_some, if_true]
      cases command with
      | login credentials replyTo =>
          simp only [TradeSessionCommand.redact, handleLoggedInTradeCommand, same, ids]
          rfl
      | logout replyTo => rfl
      | placeOrder clientId order replyTo =>
          apply redact_withSession
          intro session present
          have inserted : (session.redact.insertOrder world.rc order).session =
                (session.insertOrder world.rc order).session.redact ∧
              (session.redact.insertOrder world.rc order).result =
                (session.insertOrder world.rc order).result :=
            request_redact session _ _ _ _ _
          simp only [registerAndInsertOrder, inserted.1, inserted.2]
          cases (session.insertOrder world.rc order).result <;> rfl
      | cancelOrder cancel replyTo =>
          simp only [TradeSessionCommand.redact, handleLoggedInTradeCommand, same, ids]
          apply redact_withSession
          intro session present
          exact redact_submit (request_redact session _ _ _ _ _) fun rid => rfl
      | queryAccount | queryPosition | queryOrders | queryTrades =>
          apply redact_withSession
          intro session present
          exact redact_submit (request_redact session _ _ _ _ _) fun rid => rfl

/-- What a login event does to the actor does not depend on the credentials. -/
theorem redact_driveTradeLoginEvent (world : World) (actor : TradeActor)
    (session : TradeSession) (credentials : AccountCredentials) (replyTo : EnvelopeTx)
    (loginIds : Option (Int32 × Int32)) (event : TradeSessionEvent) :
    (driveTradeLoginEvent world actor session credentials replyTo loginIds
        event).state.redact =
      (driveTradeLoginEvent world actor.redact session.redact credentials.redact replyTo
        loginIds event).state := by
  cases event with
  | frontConnected | authenticateOk | loginOk =>
      exact redact_submit (request_redact session _ _ _ _ _) fun rid => rfl
  | _ => rfl

/-- What an input does to the actor does not depend on the credentials. -/
theorem redact_next (accountId : AccountId) (actor : TradeActor)
    (input : World × TradeInput) :
    ((TradeActor.machine accountId).next actor input).redact =
      (TradeActor.machine accountId).next actor.redact (input.1, input.2.redact) := by
  rcases input with ⟨world, input⟩
  cases input with
  | command command =>
      cases suspended : actor.driver with
      | some driver =>
          simp [Machine.next, TradeActor.machine, TradeActor.step, suspended,
            TradeActor.redact, TradeInput.redact]
      | none =>
          have idle : actor.redact.driver = none := by simp [TradeActor.redact, suspended]
          simp only [Machine.next, TradeActor.machine, TradeActor.step, suspended, idle,
            TradeInput.redact]
          exact redact_handleTradeCommand accountId world actor command
  | event event =>
      cases connected : actor.session with
      | none =>
          have absent : actor.redact.session = none := by
            simp [TradeActor.redact, connected]
          simp only [Machine.next, TradeActor.machine, TradeActor.step, connected, absent,
            TradeInput.redact]
      | some session =>
          have there : actor.redact.session = some session.redact := by
            simp [TradeActor.redact, connected]
          cases suspended : actor.driver with
          | none =>
              have idle : actor.redact.driver = none := by
                simp [TradeActor.redact, suspended]
              have same : actor.redact.loggedInIds = actor.loggedInIds := rfl
              simp only [Machine.next, TradeActor.machine, TradeActor.step, connected, there,
                suspended, idle, same, TradeInput.redact]
              cases actor.loggedInIds.isSome with
              | false => rfl
              | true => cases event <;> rfl
          | some driver =>
              have waiting : actor.redact.driver = some driver.redact := by
                simp [TradeActor.redact, suspended]
              simp only [Machine.next, TradeActor.machine, TradeActor.step, connected, there,
                suspended, waiting, TradeInput.redact]
              cases driver with
              | tradeLogin credentials replyTo loginIds =>
                  simp only [driverEvent, Driver.redact, reportLoginFailure_state]
                  exact redact_driveTradeLoginEvent world actor session credentials replyTo
                    loginIds event
              | cancelOrder | queryAccount | queryPositions | queryOrders | queryTrades =>
                  simp only [Driver.redact]
                  rw [driverEvent_eq accountId world event rfl,
                    driverEvent_eq accountId world event rfl]
                  simp only [TradeActor.redact]
                  split <;> rfl

/-! ## Two runs -/

theorem takesCommand_of_redact {left right : TradeActor} (alike : left.redact = right.redact) :
    left.takesCommand = right.takesCommand := by
  have idle (actor : TradeActor) : actor.redact.takesCommand = actor.takesCommand :=
    Option.isNone_map
  rw [← idle left, alike, idle right]

theorem redact_loggingIn (actor : TradeActor) :
    actor.redact.loggingIn = actor.loggingIn.map TradeSession.redact := by
  rcases actor with ⟨session, loggedInIds, orderRegistry, driver⟩
  cases driver with
  | none => rfl
  | some driver =>
      cases driver with
      | tradeLogin credentials replyTo ids =>
          cases session with
          | none => rfl
          | some session =>
              simp only [TradeActor.loggingIn, TradeActor.redact, Option.map_some,
                Driver.redact, Option.filter_some, TradeSession.redact]
              cases session.api.isSome <;> rfl
      | cancelOrder | queryAccount | queryPositions | queryOrders | queryTrades => rfl

/-- Two sessions of one account that carry the same credentials send the same request. -/
theorem loginRequest_eq_of_redact {left right : TradeSession}
    (alike : left.redact = right.redact) {credentials : AccountCredentials}
    (event : TradeSessionEvent)
    (carriesLeft : ∀ request ∈ left.loginRequest event, request.carries credentials = true)
    (carriesRight : ∀ request ∈ right.loginRequest event,
      request.carries credentials = true) :
    left.loginRequest event = right.loginRequest event := by
  have account : left.config.accountId = right.config.accountId :=
    congrArg (fun session => session.config.accountId) alike
  cases event with
  | frontConnected =>
      have fromLeft := carriesLeft _ rfl
      have fromRight := carriesRight _ rfl
      simp only [CtpRequest.carries, Bool.and_eq_true, decide_eq_true_eq]
        at fromLeft fromRight
      simp only [TradeSession.loginRequest, fromLeft, fromRight, account]
  | authenticateOk =>
      have fromLeft := carriesLeft _ rfl
      have fromRight := carriesRight _ rfl
      simp only [CtpRequest.carries, Bool.and_eq_true, decide_eq_true_eq]
        at fromLeft fromRight
      simp only [TradeSession.loginRequest, fromLeft, fromRight, account]
  | _ => rfl

/-- From states that differ in earlier credentials only, steps that carry the credentials
of one and the same login send the same request. -/
theorem requestsLogin_eq_of_redact (accountId : AccountId)
    {left right : TradeActor × LoginHistory} (alike : left.1.redact = right.1.redact)
    (same : left.2.handled = right.2.handled) {input : World × TradeInput}
    (carriesLeft : CarriesCredentials accountId left input)
    (carriesRight : CarriesCredentials accountId right input) :
    left.1.requestsLogin input.2 = right.1.requestsLogin input.2 := by
  rcases input with ⟨world, input⟩
  cases input with
  | command command => rfl
  | event event =>
      rw [CarriesCredentials, loginRequests_emits] at carriesLeft carriesRight
      have loggingIn : left.1.loggingIn.map TradeSession.redact =
          right.1.loggingIn.map TradeSession.redact := by
        rw [← redact_loggingIn, ← redact_loggingIn, alike]
      cases fromLeft : left.1.loggingIn with
      | none =>
          rw [fromLeft, Option.map_none, eq_comm, Option.map_eq_none_iff] at loggingIn
          simp only [TradeActor.requestsLogin, fromLeft, loggingIn]
      | some session =>
          rw [fromLeft, Option.map_some, eq_comm, Option.map_eq_some_iff] at loggingIn
          rcases loggingIn with ⟨other, fromRight, redacted⟩
          simp only [TradeActor.requestsLogin, fromLeft, fromRight, Option.bind_some,
            Option.mem_toList] at carriesLeft carriesRight ⊢
          cases handled : left.2.handled with
          | none =>
              have silent (asking : TradeSession) (carries : ∀ request,
                  request ∈ asking.loginRequest event →
                    left.2.handled.any (CtpRequest.carries · request) = true) :
                  asking.loginRequest event = none := by
                rw [Option.eq_none_iff_forall_not_mem]
                intro request sent
                have carried := carries request sent
                rw [handled] at carried
                cases carried
              rw [silent session carriesLeft, silent other (same ▸ carriesRight)]
          | some credentials =>
              simp only [← same, handled, Option.any_some] at carriesLeft carriesRight
              exact loginRequest_eq_of_redact redacted.symm event carriesLeft carriesRight

/-- From states that differ in earlier credentials only, runs whose steps carry the
credentials of their logins send the same login requests. -/
theorem loginRequests_eq_of_redact (accountId : AccountId)
    {left right : TradeActor × LoginHistory} (alike : left.1.redact = right.1.redact)
    (same : left.2.handled = right.2.handled) {inputs : List (World × TradeInput)}
    (carriesLeft :
      (watchCredentials accountId).Always (CarriesCredentials accountId) left inputs)
    (carriesRight :
      (watchCredentials accountId).Always (CarriesCredentials accountId) right inputs) :
    ((watchCredentials accountId).outputs left inputs).filterMap Effect.loginRequest =
      ((watchCredentials accountId).outputs right inputs).filterMap Effect.loginRequest := by
  induction inputs generalizing left right with
  | nil => rfl
  | cons input rest ih =>
      have now : ((watchCredentials accountId).emits left input).filterMap
          Effect.loginRequest =
            ((watchCredentials accountId).emits right input).filterMap Effect.loginRequest := by
        calc
          _ = (left.1.requestsLogin input.2).toList :=
            loginRequests_emits accountId left.1 input
          _ = (right.1.requestsLogin input.2).toList := by
            rw [requestsLogin_eq_of_redact accountId alike same carriesLeft.1 carriesRight.1]
          _ = _ := (loginRequests_emits accountId right.1 input).symm
      have next : ((watchCredentials accountId).next left input).1.redact =
          ((watchCredentials accountId).next right input).1.redact := by
        simp only [watchCredentials, Machine.observe_next, redact_next, alike]
      have handled : ((watchCredentials accountId).next left input).2.handled =
          ((watchCredentials accountId).next right input).2.handled := by
        simp only [watchCredentials, Machine.observe_next, LoginHistory.record,
          TradeActor.takesLogin, takesCommand_of_redact alike, same]
      rw [Machine.outputs, Machine.outputs, List.filterMap_append, List.filterMap_append, now,
        ih next handled carriesLeft.2 carriesRight.2]

/-- From a traced state on, the requests carry their logins' credentials exactly when the
sessions fit. -/
theorem always_carriesCredentials_iff (accountId : AccountId)
    {watched : TradeActor × LoginHistory} (traced : CredentialsTraced watched)
    (inputs : List (World × TradeInput)) :
    (watchCredentials accountId).Always (CarriesCredentials accountId) watched inputs ↔
      (watchCredentials accountId).Always SessionFits watched inputs :=
  Machine.always_congr _ (credentialsTraced_next accountId) (carriesCredentials_iff accountId)
    traced inputs

/-- What a run reaches depends on the credentials of its logins by redacted parts only. -/
theorem redact_runFrom (accountId : AccountId) (watched : TradeActor × LoginHistory)
    (inputs : List (World × TradeInput)) :
    ((watchCredentials accountId).runFrom watched inputs).1.redact =
      (TradeActor.machine accountId).runFrom watched.1.redact
        (inputs.map fun input => (input.1, input.2.redact)) :=
  Machine.map_runFrom (watchCredentials accountId) (TradeActor.machine accountId)
    (fun watched => watched.1.redact) _
    (fun watched input => redact_next accountId watched.1 input) watched inputs

/-- Along every run all login requests carry the credentials of the login being handled
exactly when each session that sends one was connected by a login that agrees with it; and
two runs that differ in the credentials of earlier logins only, and meet that condition
from a later login on, send the same login requests from there on. -/
theorem logins_carry_their_credentials (accountId : AccountId) :
    (∀ inputs : List (World × TradeInput),
      (watchCredentials accountId).Always (CarriesCredentials accountId)
          (watchCredentials accountId).init inputs ↔
        (watchCredentials accountId).Always SessionFits (watchCredentials accountId).init
          inputs) ∧
      ∀ (before before' after : List (World × TradeInput)) (world : World)
        (credentials : AccountCredentials) (replyTo : EnvelopeTx),
        let login : World × TradeInput := (world, .command (.login credentials replyTo))
        let reached := (watchCredentials accountId).runFrom (watchCredentials accountId).init
        (before.map fun input => (input.1, input.2.redact)) =
            (before'.map fun input => (input.1, input.2.redact)) →
          (reached before).1.takesCommand = true →
          (watchCredentials accountId).Always SessionFits (reached before) (login :: after) →
          (watchCredentials accountId).Always SessionFits (reached before') (login :: after) →
            ((watchCredentials accountId).outputs (reached before)
                  (login :: after)).filterMap
                Effect.loginRequest =
              ((watchCredentials accountId).outputs (reached before')
                  (login :: after)).filterMap
                Effect.loginRequest := by
  have traced (inputs : List (World × TradeInput)) : CredentialsTraced
      ((watchCredentials accountId).runFrom (watchCredentials accountId).init inputs) :=
    Machine.invariant_runFrom _ (credentialsTraced_next accountId)
      (credentialsTraced_init accountId) inputs
  constructor
  · intro inputs
    exact always_carriesCredentials_iff accountId (credentialsTraced_init accountId) inputs
  · intro before before' after world credentials replyTo login reached redacted
      taken fits fits'
    have alike : (reached before).1.redact = (reached before').1.redact := by
      simp only [reached, redact_runFrom, redacted]
    have taken' : (reached before').1.takesCommand = true := by
      rw [← takesCommand_of_redact alike, taken]
    have silent (watched : TradeActor × LoginHistory) :
        ((watchCredentials accountId).emits watched login).filterMap Effect.loginRequest = [] :=
      loginRequests_emits accountId watched.1 login
    have next : ((watchCredentials accountId).next (reached before) login).1.redact =
        ((watchCredentials accountId).next (reached before') login).1.redact := by
      simp only [watchCredentials, Machine.observe_next, redact_next, alike]
    have handled {watched : TradeActor × LoginHistory}
        (taken : watched.1.takesCommand = true) :
        ((watchCredentials accountId).next watched login).2.handled = some credentials := by
      simp only [watchCredentials, Machine.observe_next, LoginHistory.record,
        TradeActor.takesLogin, login, taken, if_true, Option.some_or]
    have rest := loginRequests_eq_of_redact accountId next
      ((handled taken).trans (handled taken').symm)
      ((always_carriesCredentials_iff accountId (traced before) (login :: after)).mpr fits).2
      ((always_carriesCredentials_iff accountId (traced before') (login :: after)).mpr fits').2
    rw [Machine.outputs, Machine.outputs, List.filterMap_append, List.filterMap_append,
      silent, silent]
    exact rest

/-- A login with another password is refused, the next login finds the session of the
first and logs in with the old password when the front comes back. -/
theorem retriedLogin_misuses_credentials :
    ¬(watchCredentials ⟨"1001"⟩).Always (CarriesCredentials ⟨"1001"⟩)
      (watchCredentials ⟨"1001"⟩).init
      ([.command (.login ⟨⟨"1001"⟩, "mistyped", "9999", "app", "auth"⟩ ⟨0⟩),
          .event .frontConnected, .event .authenticateOk, .event (.loginFailed 3 ""),
          .command (.login ⟨⟨"1001"⟩, "right", "9999", "app", "auth"⟩ ⟨0⟩),
          .event (.frontDisconnected 4097), .event .frontConnected,
          .event .authenticateOk].map fun input => (World.accepting {}, input)) := by
  decide

/-- After a login whose connect failed, whatever its password was, the next login sends
its own credentials. -/
theorem logins_carry_their_credentials_connectFailed :
    let failing : World := { World.accepting {} with connect := .error "refused" }
    let before password : List (World × TradeInput) :=
      [(failing, .command (.login ⟨⟨"1001"⟩, password, "9999", "app", "auth"⟩ ⟨0⟩))]
    let reached := (watchCredentials ⟨"1001"⟩).runFrom (watchCredentials ⟨"1001"⟩).init
    let later : List (World × TradeInput) :=
      (World.accepting {}, .command (.login ⟨⟨"1001"⟩, "right", "9999", "app", "auth"⟩ ⟨0⟩)) ::
        [.event .frontConnected, .event .authenticateOk].map
          fun input => (World.accepting {}, input)
    ((watchCredentials ⟨"1001"⟩).outputs (reached (before "one")) later).filterMap
        Effect.loginRequest =
      ((watchCredentials ⟨"1001"⟩).outputs (reached (before "two")) later).filterMap
        Effect.loginRequest := by
  intro failing before reached later
  exact (logins_carry_their_credentials ⟨"1001"⟩).2 (before "one") (before "two") _ _ _ _ rfl
    rfl (by decide) (by decide)

end CtpSystem
