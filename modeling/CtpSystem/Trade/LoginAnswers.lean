import CtpSystem.Library.Relay
import CtpSystem.Trade.Replies

/-!
# Logins are answered

A login ends with the state `LoggedIn` or `Error` on its own channel, and every account
state the actor tells is the state it is in.
-/

namespace CtpSystem

open Reactive

/-! ## Conclusions -/

/-- The state ends a login. -/
def ConnectionState.concludes : ConnectionState → Bool
  | .loggedIn | .error => true
  | .disconnected | .connecting | .connected | .authenticating => false

/-- The channel on which an effect concludes a login. -/
def Effect.concludedLogin : Effect → List EnvelopeTx
  | .reply channel (.accountStateUpdate told) => if told.state.concludes then [channel] else []
  | _ => []

/-- The channel a command gives to a login. -/
def TradeSessionCommand.loginChannel : TradeSessionCommand → List EnvelopeTx
  | .login _ replyTo => [replyTo]
  | _ => []

namespace TradeActor

/-- The channel of the login an input gives the actor, if it takes it. -/
def takenLogin (actor : TradeActor) (input : World × TradeInput) : List EnvelopeTx :=
  match input.2 with
  | .command command => if actor.driver.isNone then command.loginChannel else []
  | .event _ => []

/-- The channel of the login the actor is suspended in. -/
def loginChannel (actor : TradeActor) : List EnvelopeTx :=
  match actor.driver with
  | some (.tradeLogin _ replyTo _) => [replyTo]
  | _ => []

/-- An account state that is told is the state of the actor. -/
def Tells (actor : TradeActor) : Effect → Prop
  | .reply _ (.accountStateUpdate told) =>
      (told.state = .loggedIn ↔ actor.loggedInIds.isSome) ∧
        told.frontId = actor.loggedInIds.map (·.1) ∧
        told.sessionId = actor.loggedInIds.map (·.2)
  | .setAccountState _ state => state = .loggedIn ↔ actor.loggedInIds.isSome
  | _ => True

/-- The effect tells the truth and concludes no login. -/
def GoesOn (actor : TradeActor) (effect : Effect) : Prop :=
  effect.concludedLogin = [] ∧ actor.Tells effect

/-- Only a logged-out actor is suspended in a login. -/
def LoginLoggedOut (actor : TradeActor) : Prop :=
  ∀ credentials replyTo loginIds,
    actor.driver = some (.tradeLogin credentials replyTo loginIds) → actor.loggedInIds = none

theorem loginChannel_of_request {actor : TradeActor} {driver : Driver}
    (waits : actor.driver = some driver) (request : driver.isRequest = true) :
    actor.loginChannel = [] := by
  rw [loginChannel, waits]
  cases driver with
  | tradeLogin => cases request
  | cancelOrder | queryAccount | queryPositions | queryOrders | queryTrades => rfl

end TradeActor

/-! ## Effects -/

theorem goesOn_requested (actor : TradeActor) {called : TradeSession.Called} {effect : Effect}
    (emitted : effect ∈ TradeActor.requested called) : actor.GoesOn effect := by
  rcases List.mem_map.mp emitted with ⟨sent, -, rfl⟩
  exact ⟨rfl, trivial⟩

theorem goesOn_reportPushes (actor : TradeActor) {world : World}
    {orderRegistry : OrderRegistry} {event : TradeSessionEvent} {effect : Effect}
    (emitted : effect ∈ reportPushes world orderRegistry event) : actor.GoesOn effect := by
  rcases mem_reportPushes.mp emitted with ⟨context, message, -, -, rfl⟩
  exact ⟨rfl, trivial⟩

/-- A request is answered with its rows or an error. -/
theorem goesOn_replies (actor : TradeActor) {world : World} {orderRegistry : OrderRegistry}
    {driver : Driver} {event : TradeSessionEvent} {effect : Effect}
    (emitted : effect ∈ driver.replies world orderRegistry event) : actor.GoesOn effect := by
  cases driver with
  | tradeLogin => cases emitted
  | cancelOrder =>
      cases event with
      | cancelActionFailed =>
          simp only [Driver.replies] at emitted
          split at emitted
          · rw [List.mem_singleton.mp emitted]
            exact ⟨rfl, trivial⟩
          · cases emitted
      | _ => cases emitted
  | queryAccount | queryPositions | queryOrders | queryTrades =>
      cases event <;> simp only [Driver.replies, queryAccountAnswer, queryPositionsAnswer,
        queryOrdersAnswer, queryTradesAnswer, Option.map_none, Option.toList_none,
        List.not_mem_nil] at emitted
      all_goals
        split at emitted
        · simp only [Option.map_some, Option.toList_some, List.mem_singleton] at emitted
          rw [emitted]
          exact ⟨rfl, trivial⟩
        · cases emitted

/-- A logged-out actor tells any state but `LoggedIn`. -/
theorem tells_state {actor : TradeActor} (loggedOut : actor.loggedInIds = none)
    (clock : Clock) (accountId : AccountId) (replyTo : EnvelopeTx) {state : ConnectionState}
    (other : state ≠ .loggedIn) :
    actor.Tells (sendAccountState replyTo (accountState clock accountId state)) := by
  refine ⟨?_, ?_, ?_⟩
  · rw [loggedOut]
    exact iff_of_false other Bool.false_ne_true
  · rw [loggedOut]
    rfl
  · rw [loggedOut]
    rfl

theorem tells_loggedIn {actor : TradeActor} {ids : Int32 × Int32}
    (loggedIn : actor.loggedInIds = some ids) (clock : Clock) (accountId : AccountId)
    (replyTo : EnvelopeTx) :
    actor.Tells (sendAccountState replyTo (loggedInState clock accountId ids)) := by
  refine ⟨?_, ?_, ?_⟩
  · rw [loggedIn]
    exact iff_of_true rfl rfl
  · rw [loggedIn]
    rfl
  · rw [loggedIn]
    rfl

/-- What a piece of handling answers, out of the logins it was given. -/
structure AnswersLogins (given : List EnvelopeTx) (actor : TradeActor)
    (effects : List Effect) : Prop where
  balanced : effects.flatMap Effect.concludedLogin ++ actor.loginChannel = given
  truthful : ∀ effect ∈ effects, actor.Tells effect

section Handlers

variable {accountId : AccountId} {world : World} {actor : TradeActor} {effects : List Effect}

/-- While nothing is concluded the login stays where it is. -/
theorem answersLogins_goesOn (quiet : ∀ effect ∈ effects, actor.GoesOn effect) :
    AnswersLogins actor.loginChannel actor effects where
  balanced := by
    have none : effects.flatMap Effect.concludedLogin = [] :=
      List.flatMap_eq_nil_iff.mpr fun effect emitted => (quiet effect emitted).1
    rw [none, List.nil_append]
  truthful effect emitted := (quiet effect emitted).2

/-- A reply that concludes a login is its only one. -/
theorem answersLogins_concluded {replyTo : EnvelopeTx} {told : AccountState}
    (quiet : ∀ effect ∈ effects, actor.GoesOn effect) (top : actor.driver = none)
    (concludes : told.state.concludes = true)
    (truthful : actor.Tells (sendAccountState replyTo told)) :
    AnswersLogins [replyTo] actor (effects ++ [sendAccountState replyTo told]) where
  balanced := by
    have none : effects.flatMap Effect.concludedLogin = [] :=
      List.flatMap_eq_nil_iff.mpr fun effect emitted => (quiet effect emitted).1
    have concluded : (sendAccountState replyTo told).concludedLogin = [replyTo] :=
      if_pos concludes
    rw [List.flatMap_append, none, List.flatMap_singleton, concluded, TradeActor.loginChannel,
      top]
    rfl
  truthful effect emitted := by
    rcases List.mem_append.mp emitted with earlier | last
    · exact (quiet effect earlier).2
    · rw [List.mem_singleton.mp last]
      exact truthful

/-- A login that fails is told so. -/
theorem answersLogins_failed {replyTo : EnvelopeTx} {handling : Handling} {message : String}
    (failed : handling.result = some (.error message)) (top : handling.state.driver = none)
    (loggedOut : handling.state.loggedInIds = none)
    (quiet : ∀ effect ∈ handling.outputs, handling.state.GoesOn effect) :
    AnswersLogins [replyTo] (reportLoginFailure accountId world replyTo handling).state
      (reportLoginFailure accountId world replyTo handling).outputs := by
  have reported : reportLoginFailure accountId world replyTo handling =
      { handling with
        outputs := handling.outputs ++
          [sendAccountState replyTo (accountState world.clock accountId .error)] } := by
    rw [reportLoginFailure, failed]
  rw [reported]
  apply answersLogins_concluded quiet top rfl
  exact tells_state loggedOut world.clock accountId replyTo (by simp)

/-- A login that waits has told no conclusion yet. -/
theorem answersLogins_waiting {credentials : AccountCredentials} {replyTo : EnvelopeTx}
    {loginIds : Option (Int32 × Int32)} {handling : Handling}
    (goesOn : handling.result = none)
    (waits : handling.state.driver = some (.tradeLogin credentials replyTo loginIds))
    (quiet : ∀ effect ∈ handling.outputs, handling.state.GoesOn effect) :
    AnswersLogins [replyTo] (reportLoginFailure accountId world replyTo handling).state
      (reportLoginFailure accountId world replyTo handling).outputs := by
  have unreported : reportLoginFailure accountId world replyTo handling = handling := by
    rw [reportLoginFailure, goesOn]
  have waiting : handling.state.loginChannel = [replyTo] := by
    rw [TradeActor.loginChannel, waits]
  rw [unreported, ← waiting]
  exact answersLogins_goesOn quiet

/-- A request of a login goes through, or fails the login. -/
theorem answersLogins_request {credentials : AccountCredentials} {replyTo : EnvelopeTx}
    {loginIds : Option (Int32 × Int32)} {called : TradeSession.Called}
    (loggedOut : actor.loggedInIds = none)
    (quiet : ∀ effect ∈ effects, ∀ later : TradeActor, later.loggedInIds = none →
      later.GoesOn effect) :
    let submitted := reportLoginFailure accountId world replyTo
      (actor.submit effects called fun _ => .tradeLogin credentials replyTo loginIds)
    AnswersLogins [replyTo] submitted.state submitted.outputs := by
  have sent : ∀ later : TradeActor, later.loggedInIds = none →
      ∀ effect ∈ effects ++ TradeActor.requested called, later.GoesOn effect := by
    intro later none effect emitted
    rcases List.mem_append.mp emitted with own | requested
    · exact quiet effect own later none
    · exact goesOn_requested later requested
  cases outcome : called.result with
  | error message =>
      rw [TradeActor.submit_of_error outcome]
      exact answersLogins_failed rfl rfl loggedOut (sent _ loggedOut)
  | ok rid =>
      rw [TradeActor.submit_of_ok outcome]
      exact answersLogins_waiting rfl rfl (sent _ loggedOut)

/-! ## Commands -/

/-- A request that is submitted leaves the logins alone. -/
theorem answersLogins_submit (called : TradeSession.Called) {driver : Int32 → Driver}
    (request : ∀ rid, (driver rid).isRequest = true) :
    AnswersLogins [] (actor.submit [] called driver).state
      (actor.submit [] called driver).outputs := by
  have top : (actor.submit [] called driver).state.loginChannel = [] := by
    rcases TradeActor.submit_driver actor [] called driver with none | ⟨rid, waits⟩
    · rw [TradeActor.loginChannel, none]
    · exact TradeActor.loginChannel_of_request waits (request rid)
  rw [← top]
  apply answersLogins_goesOn
  intro effect emitted
  rw [TradeActor.submit_outputs, List.nil_append] at emitted
  exact goesOn_requested _ emitted

/-- A login is answered, or waits. -/
theorem answersLogins_login (credentials : AccountCredentials) (replyTo : EnvelopeTx) :
    let handling := handleTradeCommand accountId world actor (.login credentials replyTo)
    AnswersLogins [replyTo] handling.state handling.outputs := by
  cases ids : actor.loggedInIds with
  | none =>
      simp only [handleTradeCommand, ids, Option.isSome_none, Bool.false_eq_true, if_false,
        handleLoggedOutTradeCommand, driveTradeLogin]
      split
      · exact answersLogins_failed rfl rfl ids (List.forall_mem_nil _)
      · apply answersLogins_waiting rfl rfl
        refine List.forall_mem_singleton.mpr ⟨rfl, ?_⟩
        exact tells_state rfl world.clock credentials.accountId replyTo (by simp)
  | some loginIds =>
      simp only [handleTradeCommand, ids, Option.isSome_some, if_true,
        handleLoggedInTradeCommand]
      apply answersLogins_concluded (List.forall_mem_nil _) rfl rfl
      exact tells_loggedIn ids world.clock credentials.accountId replyTo

/-- Handling that ends without concluding a login. -/
theorem answersLogins_top (top : actor.driver = none)
    (quiet : ∀ effect ∈ effects, actor.GoesOn effect) : AnswersLogins [] actor effects := by
  have idle : actor.loginChannel = [] := by rw [TradeActor.loginChannel, top]
  rw [← idle]
  exact answersLogins_goesOn quiet

/-- A command that is no login is refused while logged out. -/
theorem answersLogins_refused (loggedOut : actor.loggedInIds = none)
    {command : TradeSessionCommand}
    (other : ∀ credentials replyTo, command ≠ .login credentials replyTo) :
    AnswersLogins [] (handleTradeCommand accountId world actor command).state
      (handleTradeCommand accountId world actor command).outputs := by
  simp only [handleTradeCommand, loggedOut, Option.isSome_none, Bool.false_eq_true, if_false]
  cases command with
  | login credentials replyTo => exact absurd rfl (other credentials replyTo)
  | placeOrder | cancelOrder | queryAccount | queryPosition | queryOrders | queryTrades =>
      exact answersLogins_top rfl (List.forall_mem_singleton.mpr ⟨rfl, trivial⟩)
  | logout replyTo =>
      apply answersLogins_top rfl
      refine List.forall_mem_singleton.mpr ⟨rfl, ?_⟩
      exact tells_state loggedOut world.clock accountId replyTo (by simp)

/-- Any other command concludes no login, and starts none. -/
theorem answersLogins_other {command : TradeSessionCommand}
    (other : ∀ credentials replyTo, command ≠ .login credentials replyTo) :
    AnswersLogins [] (handleTradeCommand accountId world actor command).state
      (handleTradeCommand accountId world actor command).outputs := by
  cases ids : actor.loggedInIds with
  | none => exact answersLogins_refused ids other
  | some loginIds =>
      have handled := tradeCommand_case accountId world actor command
      generalize handleTradeCommand accountId world actor command = handling at handled ⊢
      cases handled with
      | login credentials replyTo loggedOut => exact absurd rfl (other credentials replyTo)
      | rejected _ message loggedOut => simp [ids] at loggedOut
      | known credentials replyTo => exact absurd rfl (other credentials replyTo)
      | logout replyTo =>
          apply answersLogins_top rfl
          refine List.forall_mem_singleton.mpr ⟨rfl, ?_⟩
          exact tells_state rfl world.clock accountId replyTo (by simp)
      | unconnected => exact answersLogins_top rfl (List.forall_mem_nil _)
      | placed => exact answersLogins_top rfl fun effect emitted => goesOn_requested _ emitted
      | unplaced clientId order replyTo session message =>
          apply answersLogins_top rfl
          intro effect emitted
          rcases List.mem_append.mp emitted with requested | reported
          · exact goesOn_requested _ requested
          · rw [List.mem_singleton.mp reported]
            exact ⟨rfl, trivial⟩
      | request _ session call pending field driver loggedIn connected asked serves =>
          exact answersLogins_submit _ fun rid => isRequest_of_requestDriver (serves rid)

/-- Handling a command answers its login, or leaves it waiting. -/
theorem answersLogins_command (command : TradeSessionCommand) :
    AnswersLogins command.loginChannel (handleTradeCommand accountId world actor command).state
      (handleTradeCommand accountId world actor command).outputs := by
  cases command with
  | login credentials replyTo => exact answersLogins_login credentials replyTo
  | placeOrder | cancelOrder | queryAccount | queryPosition | queryOrders | queryTrades
  | logout => exact answersLogins_other (by simp)

/-! ## Events -/

/-- The login an actor is suspended in goes on, or is answered. -/
theorem answersLogins_event (loggedOut : actor.loggedInIds = none) (session : TradeSession)
    (credentials : AccountCredentials) (replyTo : EnvelopeTx)
    (loginIds : Option (Int32 × Int32)) (event : TradeSessionEvent) :
    let handling := reportLoginFailure accountId world replyTo
      (driveTradeLoginEvent world actor session credentials replyTo loginIds event)
    AnswersLogins [replyTo] handling.state handling.outputs := by
  cases event with
  | frontConnected =>
      apply answersLogins_request loggedOut
      intro effect own later none
      rw [List.mem_singleton.mp own]
      exact ⟨rfl, tells_state none world.clock credentials.accountId replyTo (by simp)⟩
  | authenticateOk | loginOk =>
      exact answersLogins_request loggedOut fun effect own => absurd own List.not_mem_nil
  | settlementConfirmed =>
      apply answersLogins_concluded (List.forall_mem_nil _) rfl rfl
      exact tells_loggedIn rfl world.clock credentials.accountId replyTo
  | frontDisconnected =>
      apply answersLogins_waiting rfl rfl
      refine List.forall_mem_singleton.mpr ⟨rfl, ?_⟩
      exact tells_state loggedOut world.clock credentials.accountId replyTo (by simp)
  | authenticateFailed | loginFailed | settlementConfirmFailed | error =>
      exact answersLogins_failed rfl rfl loggedOut (List.forall_mem_nil _)
  | heartBeatWarning | orderInsertRejected | orderReturn | tradeReturn | queryAccountReady
  | queryPositionsReady | queryOrdersReady | queryTradesReady | queryFailed | cancelActionOk
  | cancelActionFailed => exact answersLogins_waiting rfl rfl (List.forall_mem_nil _)

/-- At the top of the loop an event is pushed, or logs the actor out. -/
theorem answersLogins_idleEvent (idle : actor.driver = none) (event : TradeSessionEvent) :
    AnswersLogins [] (handleLoggedInTradeEvent accountId world actor event).1
      (handleLoggedInTradeEvent accountId world actor event).2 := by
  by_cases lost : ∃ reason, event = .frontDisconnected reason
  · rcases lost with ⟨reason, rfl⟩
    have told : ({ actor with loggedInIds := none } : TradeActor).Tells
        (.setAccountState accountId .disconnected) := by simp [TradeActor.Tells]
    exact answersLogins_top idle (List.forall_mem_singleton.mpr ⟨rfl, told⟩)
  · rw [handleLoggedInTradeEvent_fst accountId world actor event lost]
    apply answersLogins_top idle
    intro effect emitted
    rcases idleEvent_outputs emitted with pushed | ⟨disconnected, -⟩
    · exact goesOn_reportPushes actor pushed
    · exact absurd disconnected lost

/-- A request in flight is none of a login. -/
theorem answersLogins_requestEvent {driver : Driver} (request : driver.isRequest = true)
    (event : TradeSessionEvent) :
    AnswersLogins []
      { actor with driver := if driver.returnsOn event then none else some driver }
      (reportPushes world actor.orderRegistry event ++
        driver.replies world actor.orderRegistry event) := by
  have quiet : ∀ later : TradeActor, ∀ effect ∈ reportPushes world actor.orderRegistry event ++
      driver.replies world actor.orderRegistry event, later.GoesOn effect := by
    intro later effect emitted
    rcases List.mem_append.mp emitted with pushed | replied
    · exact goesOn_reportPushes later pushed
    · exact goesOn_replies later replied
  cases driver.returnsOn event with
  | true => exact answersLogins_top rfl (quiet _)
  | false =>
      have none : ({ actor with driver := some driver } : TradeActor).loginChannel = [] :=
        TradeActor.loginChannel_of_request rfl request
      rw [← none]
      exact answersLogins_goesOn (quiet _)

end Handlers

/-! ## Steps and runs -/

theorem loginLoggedOut_next (accountId : AccountId) {actor : TradeActor}
    (loggedOut : actor.LoginLoggedOut) (input : World × TradeInput) :
    ((TradeActor.machine accountId).next actor input).LoginLoggedOut :=
  fun _ _ _ suspended => loggedOut_of_login_next accountId loggedOut suspended

theorem loginLoggedOut_run (accountId : AccountId) {actor : TradeActor}
    (loggedOut : actor.LoginLoggedOut) (inputs : List (World × TradeInput)) :
    ((TradeActor.machine accountId).runFrom actor inputs).LoginLoggedOut := by
  apply (TradeActor.machine accountId).invariant_runFrom _ loggedOut inputs
  intro state input kept
  exact loginLoggedOut_next accountId kept input

/-- A step answers the login it takes or the one it is suspended in, or keeps it. -/
theorem answersLogins_next (accountId : AccountId) {actor : TradeActor}
    (loggedOut : actor.LoginLoggedOut) (input : World × TradeInput) :
    AnswersLogins (actor.loginChannel ++ actor.takenLogin input)
      ((TradeActor.machine accountId).next actor input)
      ((TradeActor.machine accountId).emits actor input) := by
  rcases input with ⟨world, input⟩
  have stepped := TradeActor.step_case accountId actor (world, input)
  generalize (TradeActor.machine accountId).next actor (world, input) = next at stepped ⊢
  generalize (TradeActor.machine accountId).emits actor (world, input) = effects at stepped ⊢
  cases stepped with
  | ignoredCommand command busy =>
      have untaken : actor.takenLogin (world, .command command) = [] := by
        have suspended : ¬actor.driver.isNone = true := by
          rw [← TradeActor.takesCommand, busy]
          exact Bool.false_ne_true
        exact if_neg suspended
      rw [untaken, List.append_nil]
      exact answersLogins_goesOn (List.forall_mem_nil _)
  | ignoredEvent event =>
      rw [TradeActor.takenLogin, List.append_nil]
      exact answersLogins_goesOn (List.forall_mem_nil _)
  | command command idle =>
      have taken : actor.loginChannel ++ actor.takenLogin (world, .command command) =
          command.loginChannel := by
        rw [TradeActor.loginChannel, TradeActor.takenLogin, idle]
        rfl
      rw [taken]
      exact answersLogins_command command
  | idleEvent event idle =>
      have none : actor.loginChannel ++ actor.takenLogin (world, .event event) = [] := by
        rw [TradeActor.loginChannel, TradeActor.takenLogin, idle]
        rfl
      rw [none]
      exact answersLogins_idleEvent idle event
  | requestEvent event driver waits request =>
      have none : actor.loginChannel ++ actor.takenLogin (world, .event event) = [] := by
        rw [TradeActor.loginChannel_of_request waits.2 request, TradeActor.takenLogin]
        rfl
      rw [none]
      exact answersLogins_requestEvent request event
  | loginEvent event session credentials replyTo loginIds connected suspended =>
      have waits : actor.loginChannel ++ actor.takenLogin (world, .event event) = [replyTo] := by
        rw [TradeActor.loginChannel, TradeActor.takenLogin, suspended]
        rfl
      rw [waits]
      exact answersLogins_event (loggedOut _ _ _ suspended) session credentials replyTo loginIds
        event

/-- The actor relays the channels of the logins it takes to the states that conclude them. -/
theorem loginRelay (accountId : AccountId) :
    Relay (TradeActor.machine accountId) TradeActor.LoginLoggedOut TradeActor.takenLogin
      TradeActor.loginChannel Effect.concludedLogin where
  preserved _ input loggedOut := loginLoggedOut_next accountId loggedOut input
  passes _ input loggedOut :=
    (answersLogins_next accountId loggedOut input).balanced ▸ List.Sublist.refl _

/-- In every run every login taken is concluded once, in turn and on its own channel, unless
it is the one the actor is still in; and every account state told is the state the actor is
in. -/
theorem logins_answered (accountId : AccountId) (inputs : List (World × TradeInput)) :
    let machine := TradeActor.machine accountId
    let actor := machine.runFrom {} inputs
    (machine.outputs {} inputs).flatMap Effect.concludedLogin ++ actor.loginChannel =
        machine.collect TradeActor.takenLogin {} inputs ∧
      ∀ input, ∀ effect ∈ machine.emits actor input, (machine.next actor input).Tells effect := by
  have initial : ({} : TradeActor).LoginLoggedOut := by
    intro credentials replyTo loginIds suspended
    cases suspended
  constructor
  · apply ((loginRelay accountId).outputs_eq_iff _ {} initial inputs).mpr
    · exact (TradeActor.machine accountId).always_of_forall (fun _ _ => trivial) {} inputs
    · intro actor input loggedOut
      exact iff_of_true (answersLogins_next accountId loggedOut input).balanced trivial
  · intro input
    exact (answersLogins_next accountId (loginLoggedOut_run accountId initial inputs)
      input).truthful

end CtpSystem
