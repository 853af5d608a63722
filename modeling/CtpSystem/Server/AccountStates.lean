import CtpSystem.Server.System

/-!
# The account states of the server

`SessionManager` keeps a connection state for each account.  It is written when a client
binds the account and when the idle actor loses its front, and never when a login
completes.  So it agrees with the login ids of the account's actor as long as no login
of the account completes.
-/

namespace CtpSystem

open Reactive

/-- What happens to a running server: an envelope arrives, a market-data connection is
cleaned up, or an account's actor takes a command or an event. -/
inductive ServerInput where
  | envelope (world : GatewayWorld) (kind : TcpEndpointKind) (peer : String)
      (outbound : EnvelopeTx) (envelope : Envelope)
  | disconnected (world : GatewayWorld) (clientId : ClientId)
  | command (accountId : AccountId) (surroundings : Surroundings)
  | event (accountId : AccountId) (surroundings : Surroundings) (event : TradeSessionEvent)

/-- The account states are written by the actors themselves. -/
def ServerInput.toSystem : ServerInput → SystemInput
  | .envelope world kind peer outbound received =>
      .gateway world (.envelope kind peer outbound received)
  | .disconnected world clientId => .gateway world (.disconnected clientId)
  | .command accountId surroundings => .command accountId surroundings
  | .event accountId surroundings received => .event accountId surroundings received

/-- A running server with the given configuration. -/
def server (config : ServerConfig) : Machine ServerSystem ServerInput SystemEffect :=
  (ServerSystem.machine config).comap ServerInput.toSystem

/-! ## Writes to the account states -/

/-- No account is recorded as logged in. -/
def NoneLoggedIn (state : ServerActorState) : Prop :=
  ∀ key, state.sessions.accountStates.lookup key ≠ some .loggedIn

theorem noneLoggedIn_of_insert {state after : ServerActorState}
    (noneLoggedIn : NoneLoggedIn state) {accountId : AccountId}
    {connection : ConnectionState} (other : connection ≠ .loggedIn)
    (written : after.sessions.accountStates =
      state.sessions.accountStates.insert accountId.asStr connection) :
    NoneLoggedIn after := by
  intro key
  rw [written]
  by_cases same : key = accountId.asStr
  · rw [same, AList.lookup_insert, Ne, Option.some.injEq]
    exact other
  · rw [AList.lookup_insert_ne same]
    exact noneLoggedIn key

/-- A binding writes `Connecting`, or `Error` over it. -/
theorem noneLoggedIn_bindAccount (world : GatewayWorld) {state : ServerActorState}
    (noneLoggedIn : NoneLoggedIn state) (clientId : ClientId)
    (credentials : AccountCredentials) (replyTo : EnvelopeTx) :
    NoneLoggedIn (state.bindAccount world clientId credentials replyTo).state := by
  have connecting : ConnectionState.connecting ≠ .loggedIn := by decide
  have error : ConnectionState.error ≠ .loggedIn := by decide
  rw [ServerActorState.bindAccount]
  split
  · exact noneLoggedIn
  · split
    · exact noneLoggedIn_of_insert noneLoggedIn connecting rfl
    · split
      · exact noneLoggedIn_of_insert noneLoggedIn error (AList.insert_insert _)
      · exact noneLoggedIn_of_insert noneLoggedIn connecting rfl

theorem noneLoggedIn_perform (world : GatewayWorld) {state : ServerActorState}
    (noneLoggedIn : NoneLoggedIn state) (clientId : ClientId) (replyTo : EnvelopeTx)
    (call : AccountCall) : NoneLoggedIn (state.perform world clientId replyTo call).state := by
  have sent : ∀ check accountId command,
      NoneLoggedIn (state.sendChecked world check accountId command).state := by
    intro check accountId command
    rw [sendChecked_state]
    exact noneLoggedIn
  cases call with
  | bindAccount credentials =>
      exact noneLoggedIn_bindAccount world noneLoggedIn clientId credentials replyTo
  | placeOrder | cancelOrder | queryAccount | queryPosition | queryOrders | queryTrades
  | logoutAccount => exact sent _ _ _

theorem noneLoggedIn_handleEnvelope (world : GatewayWorld) (kind : TcpEndpointKind)
    (peer : String) {state : ServerActorState} (noneLoggedIn : NoneLoggedIn state)
    (outbound : EnvelopeTx) (envelope : Envelope) :
    NoneLoggedIn (handleEnvelope world kind peer state outbound envelope).state := by
  have handled := handleEnvelope_case world kind peer state outbound envelope
  generalize (handleEnvelope world kind peer state outbound envelope).state = after at handled ⊢
  cases handled with
  | kept | registered | registeredMarketData | subscribed | unsubscribed =>
      exact noneLoggedIn
  | performed clientId call => exact noneLoggedIn_perform world noneLoggedIn clientId _ call

/-- The only state an actor writes is `Disconnected`. -/
theorem setAccountState_inversion {accountId writtenId : AccountId} {actor : TradeActor}
    {input : World × TradeInput} {connection : ConnectionState}
    (emitted : .setAccountState writtenId connection ∈
      (TradeActor.machine accountId).emits actor input) :
    connection = .disconnected := by
  rcases input with ⟨world, input⟩
  have stepped := TradeActor.step_case accountId actor (world, input)
  generalize (TradeActor.machine accountId).next actor (world, input) = next at stepped
  generalize (TradeActor.machine accountId).emits actor (world, input) = effects
    at stepped emitted
  cases stepped with
  | ignoredCommand | ignoredEvent => simp at emitted
  | command command idle =>
      rcases handleTradeCommand_outputs accountId world actor command emitted with
        ⟨message, equal⟩ | ⟨request, rc, equal⟩
      · cases equal
      · cases equal
  | idleEvent event idle connected loggedIn =>
      rcases idleEvent_outputs emitted with pushed | ⟨-, equal⟩
      · rcases mem_reportPushes.mp pushed with ⟨context, message, -, -, equal⟩
        cases equal
      · exact (Effect.setAccountState.inj equal).2
  | requestEvent event driver waits request =>
      rcases List.mem_append.mp emitted with pushed | replied
      · rcases mem_reportPushes.mp pushed with ⟨context, message, -, -, equal⟩
        cases equal
      · rcases Driver.mem_replies replied with ⟨replyTo, message, equal⟩
        cases equal
  | loginEvent event session credentials replyTo loginIds connected suspended =>
      rcases loginEvent_outputs emitted with ⟨message, equal⟩ | ⟨request, rc, equal⟩
      · cases equal
      · cases equal

theorem noneLoggedIn_applyEffects {state : ServerActorState}
    (noneLoggedIn : NoneLoggedIn state) {effects : List Effect}
    (writes : ∀ writtenId connection, .setAccountState writtenId connection ∈ effects →
      connection = .disconnected) :
    NoneLoggedIn (state.applyEffects effects) := by
  rw [ServerActorState.applyEffects]
  induction effects generalizing state with
  | nil => exact noneLoggedIn
  | cons effect rest ih =>
      apply ih
      · cases effect with
        | setAccountState writtenId connection =>
            have written := writes writtenId connection List.mem_cons_self
            exact noneLoggedIn_of_insert noneLoggedIn (by rw [written]; decide) rfl
        | reply | push | request => exact noneLoggedIn
      · intro writtenId connection member
        exact writes writtenId connection (List.mem_cons_of_mem effect member)

/-- No input records a login. -/
theorem noneLoggedIn_next (config : ServerConfig) (system : ServerSystem)
    (input : ServerInput) (noneLoggedIn : NoneLoggedIn system.shared) :
    NoneLoggedIn ((server config).next system input).shared := by
  have acted : ∀ accountId surroundings inbox taken,
      NoneLoggedIn (system.act accountId surroundings inbox taken).1.shared := by
    intro accountId surroundings inbox taken
    apply noneLoggedIn_applyEffects noneLoggedIn
    intro writtenId connection emitted
    have own : .setAccountState writtenId connection ∈ (TradeActor.machine accountId).emits
        (system.tasks accountId).actor
        ({ surroundings with shared := system.shared }, taken) := emitted
    exact setAccountState_inversion own
  cases input with
  | envelope world kind peer outbound received =>
      exact noneLoggedIn_handleEnvelope world kind peer noneLoggedIn outbound received
  | disconnected world clientId =>
      simp only [Machine.next, server, Machine.comap, ServerInput.toSystem,
        ServerSystem.machine, ServerSystem.step, gatewayStep, Handled.publish_state]
      exact noneLoggedIn
  | command accountId surroundings =>
      simp only [Machine.next, server, Machine.comap, ServerInput.toSystem,
        ServerSystem.machine, ServerSystem.step]
      split
      · exact noneLoggedIn
      · split
        · exact acted accountId surroundings _ _
        · exact noneLoggedIn
  | event accountId surroundings event => exact acted accountId surroundings _ _

/-! ## Agreement -/

/-- In between commands and with nothing left to take, the account is recorded as logged
in exactly when its actor is. -/
def StatesAgree (accountId : AccountId) (system : ServerSystem) : Prop :=
  (system.tasks accountId).actor.driver = none ∧ (system.tasks accountId).inbox = [] →
    (system.shared.sessions.accountStates.lookup accountId.asStr = some .loggedIn ↔
      (system.tasks accountId).actor.loggedInIds.isSome)

/-- The input completes a login of the account. -/
def CompletesLogin (accountId : AccountId) (system : ServerSystem) : ServerInput → Prop
  | .event actingId _ event =>
      actingId = accountId ∧
        ((system.tasks accountId).actor.completes (.event event)).isSome
  | .envelope _ _ _ _ _ | .disconnected _ _ | .command _ _ => False

instance (accountId : AccountId) (system : ServerSystem) :
    (input : ServerInput) → Decidable (CompletesLogin accountId system input)
  | .event actingId _ event =>
      inferInstanceAs (Decidable (actingId = accountId ∧
        ((system.tasks accountId).actor.completes (.event event)).isSome = true))
  | .envelope _ _ _ _ _ | .disconnected _ _ | .command _ _ =>
      inferInstanceAs (Decidable False)

instance (accountId : AccountId) (system : ServerSystem) :
    Decidable (StatesAgree accountId system) :=
  inferInstanceAs (Decidable (_ ∧ _ → (_ ↔ _)))

/-- While no login of the account completes, its actor stays logged out. -/
theorem loggedOut_next (config : ServerConfig) {accountId : AccountId}
    {system : ServerSystem} {input : ServerInput}
    (loggedOut : (system.tasks accountId).actor.loggedInIds = none)
    (incomplete : ¬CompletesLogin accountId system input) :
    (((server config).next system input).tasks accountId).actor.loggedInIds = none := by
  have acted : ∀ actingId surroundings inbox taken,
      (actingId = accountId → (system.tasks accountId).actor.completes taken = none) →
        ((system.act actingId surroundings inbox taken).1.tasks
          accountId).actor.loggedInIds = none := by
    intro actingId surroundings inbox taken other
    by_cases same : actingId = accountId
    · subst same
      have next := TradeActor.loggedInIds_next actingId (system.tasks actingId).actor
        ({ surroundings with shared := system.shared }, taken)
      rw [other rfl, loggedOut, ite_self, Option.none_or] at next
      simp only [ServerSystem.act, Function.update_self]
      exact next
    · simpa [ServerSystem.act, Function.update_of_ne (Ne.symm same)] using loggedOut
  cases input with
  | envelope | disconnected => exact loggedOut
  | command actingId surroundings =>
      simp only [Machine.next, server, Machine.comap, ServerInput.toSystem,
        ServerSystem.machine, ServerSystem.step]
      split
      · exact loggedOut
      · split
        · exact acted actingId surroundings _ _ (fun _ => rfl)
        · exact loggedOut
  | event actingId surroundings event =>
      apply acted actingId surroundings
      intro same
      rw [CompletesLogin, not_and, Option.not_isSome_iff_eq_none] at incomplete
      exact incomplete same

/-- Neither side of the agreement knows of a login. -/
structure LoggedOut (accountId : AccountId) (system : ServerSystem) : Prop where
  recorded : NoneLoggedIn system.shared
  actor : (system.tasks accountId).actor.loggedInIds = none

theorem loggedOut_init (config : ServerConfig) (accountId : AccountId) :
    LoggedOut accountId (server config).init := by
  refine ⟨?_, rfl⟩
  intro key recorded
  have empty : (server config).init.shared.sessions.accountStates = ∅ :=
    fromConfig_frame (·.sessions.accountStates) (fun _ _ _ _ => rfl) config
  rw [empty, AList.lookup_empty] at recorded
  cases recorded

/-- While no login of the account completes, the recorded state agrees with the actor in
every state of the run. -/
theorem account_states_agree (config : ServerConfig) (accountId : AccountId)
    (inputs : List ServerInput)
    (incomplete : (server config).Always
      (fun system input => ¬CompletesLogin accountId system input)
      (server config).init inputs) :
    (server config).Throughout (StatesAgree accountId) (server config).init inputs := by
  have preserved : ∀ system input, LoggedOut accountId system →
      ¬CompletesLogin accountId system input →
        LoggedOut accountId ((server config).next system input) := by
    intro system input loggedOut other
    exact ⟨noneLoggedIn_next config system input loggedOut.recorded,
      loggedOut_next config loggedOut.actor other⟩
  apply (server config).throughout_of_always preserved
  · intro system loggedOut quiescent
    simp [loggedOut.actor, loggedOut.recorded accountId.asStr]
  · exact loggedOut_init config accountId
  · exact incomplete

/-- Conversely, a completed login is not recorded: with nothing left to take, the account
is not recorded as logged in although its actor is. -/
theorem disagrees_of_completed (config : ServerConfig) {accountId : AccountId}
    {system : ServerSystem} {input : ServerInput} (noneLoggedIn : NoneLoggedIn system.shared)
    (completed : CompletesLogin accountId system input)
    (emptied : (system.tasks accountId).inbox = []) :
    ¬StatesAgree accountId ((server config).next system input) := by
  have recorded := noneLoggedIn_next config system input noneLoggedIn
  cases input with
  | envelope | disconnected | command => exact completed.elim
  | event actingId surroundings event =>
      rcases completed with ⟨rfl, completed⟩
      rcases Option.isSome_iff_exists.mp completed with ⟨ids, completed⟩
      let world : World := { surroundings with shared := system.shared }
      have idle := TradeActor.driver_next_of_completes actingId world completed
      have next := TradeActor.loggedInIds_next actingId (system.tasks actingId).actor
        (world, .event event)
      rw [completed, Option.some_or] at next
      have acted : ((server config).next system
          (.event actingId surroundings event)).tasks actingId =
          ⟨[], (TradeActor.machine actingId).next (system.tasks actingId).actor
            (world, .event event)⟩ := by
        rw [← emptied]
        exact Function.update_self _ _ _
      intro agree
      have loggedIn := (agree ⟨by rw [acted, idle], by rw [acted]⟩).mpr (by simp [acted, next])
      exact recorded _ loggedIn

/-- The whitelist of the runs below. -/
def ServerConfig.sample : ServerConfig := ⟨[⟨"CY", ["1001"], .full⟩]⟩

/-- A connected client whose commands are still served. -/
def GatewayWorld.serving : GatewayWorld where
  clock := ⟨⟨0⟩, fun _ => none⟩
  closed := fun _ => false
  marketDataClosed := false
  connected := true

/-- Surroundings in which every call is accepted. -/
def Surroundings.accepting : Surroundings := (World.accepting {}).toSurroundings

/-- A client logs an account in, up to the given event. -/
def ServerInput.login (events : List TradeSessionEvent) : List ServerInput :=
  [.envelope .serving .trading "10.0.0.1:9" ⟨1⟩ ⟨some ⟨"CY"⟩,
      .accountLogin ⟨⟨"1001"⟩, "secret", "9999", "app", "code"⟩⟩,
    .command ⟨"1001"⟩ .accepting] ++
      events.map (.event ⟨"1001"⟩ .accepting)

/-- The login is refused at the last moment. -/
def ServerInput.refusedLogin : List ServerInput :=
  ServerInput.login [.frontConnected, .authenticateOk, .loginOk "20260101" 1 7,
    .settlementConfirmFailed 3 "refused"]

theorem account_states_agree_refused :
    (server .sample).Throughout (StatesAgree ⟨"1001"⟩) (server .sample).init
      ServerInput.refusedLogin :=
  account_states_agree .sample ⟨"1001"⟩ ServerInput.refusedLogin (by decide)

/-- The login goes through. -/
def ServerInput.completedLogin : List ServerInput :=
  ServerInput.login [.frontConnected, .authenticateOk, .loginOk "20260101" 1 7,
    .settlementConfirmed]

/-- The actor is logged in and the account is still recorded as connecting. -/
theorem completed_login_not_recorded :
    ¬StatesAgree ⟨"1001"⟩ ((server .sample).runFrom (server .sample).init
      ServerInput.completedLogin) := by
  decide

end CtpSystem
