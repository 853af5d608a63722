import CtpSystem.Trade.Steps

/-!
# The link to CTP

An actor together with the connection its session holds: the events that wait in the
session's channel, whether the front is connected, and the login requests CTP has accepted
and not answered yet.  CTP reports a front once for each connection and answers each
accepted request once.
-/

namespace CtpSystem

open Reactive

/-! ## CTP's side -/

/-- The requests of a login. -/
inductive LoginCall where
  | authenticate
  | userLogin
  | settlementInfoConfirm
  deriving DecidableEq

/-- The login request an effect sends, where the call accepts it. -/
def Effect.loginCall : Effect → Option LoginCall
  | .request (.authenticate _ _ _ _ _) rc => if rc = 0 then some .authenticate else none
  | .request (.userLogin _ _ _ _) rc => if rc = 0 then some .userLogin else none
  | .request (.settlementInfoConfirm _ _ _) rc =>
      if rc = 0 then some .settlementInfoConfirm else none
  | _ => none

/-- The answers to a login request: its response, or an error response. -/
def LoginCall.answeredBy : LoginCall → TradeSessionEvent → Bool
  | .authenticate, .authenticateOk | .authenticate, .authenticateFailed _ _
  | .userLogin, .loginOk _ _ _ | .userLogin, .loginFailed _ _
  | .settlementInfoConfirm, .settlementConfirmed
  | .settlementInfoConfirm, .settlementConfirmFailed _ _ => true
  | _, .error _ _ _ => true
  | _, _ => false

/-- The events that only the front or a login request brings about. -/
def TradeSessionEvent.isLinkEvent : TradeSessionEvent → Bool
  | .frontConnected | .frontDisconnected _ | .authenticateOk | .authenticateFailed _ _
  | .loginOk _ _ _ | .loginFailed _ _ | .settlementConfirmed
  | .settlementConfirmFailed _ _ => true
  | _ => false

/-- What happens next: the actor is given a command or the next event of its session, the
front connects or disconnects (whether requests get lost is open), a login request is
answered, or CTP reports something else. -/
inductive LinkInput where
  | command (command : TradeSessionCommand)
  | receive
  | frontConnected
  | frontDisconnected (reason : Int32) (lost : Bool)
  | answer (call : LoginCall) (event : TradeSessionEvent)
  | other (event : TradeSessionEvent)
  deriving DecidableEq

/-- The actor and the connection of its session. -/
structure TradeLink where
  actor : TradeActor := {}
  queue : List TradeSessionEvent := []
  connected : Bool := false
  unanswered : List LoginCall := []

namespace TradeLink

/-- The connection after a command: a session that is made or dropped starts from nothing. -/
def command (accountId : AccountId) (link : TradeLink) (world : World)
    (command : TradeSessionCommand) : TradeLink × List Effect :=
  let (actor, effects) := link.actor.step accountId world (.command command)
  if (link.actor.connects (world, .command command)).isSome ||
      link.actor.drops (.command command) then
    ({ actor := actor }, effects)
  else
    ({ link with
        actor := actor
        unanswered := link.unanswered ++ effects.filterMap Effect.loginCall }, effects)

/-- The connection after the actor has looked for an event. -/
def receive (accountId : AccountId) (link : TradeLink) (world : World) :
    TradeLink × List Effect :=
  match link.queue with
  | [] => (link, [])
  | event :: rest =>
      if link.actor.takesEvent then
        let (actor, effects) := link.actor.step accountId world (.event event)
        ({ link with
            actor := actor
            queue := rest
            unanswered := link.unanswered ++ effects.filterMap Effect.loginCall }, effects)
      else (link, [])

/-- One step of the link. -/
def step (accountId : AccountId) (link : TradeLink) (world : World) :
    LinkInput → TradeLink × List Effect
  | .command command => link.command accountId world command
  | .receive => link.receive accountId world
  | .frontConnected =>
      if link.actor.session.isSome && !link.connected then
        ({ link with queue := link.queue ++ [.frontConnected], connected := true }, [])
      else (link, [])
  | .frontDisconnected reason lost =>
      if link.connected then
        ({ link with
            queue := link.queue ++ [.frontDisconnected reason]
            connected := false
            unanswered := if lost then [] else link.unanswered }, [])
      else (link, [])
  | .answer call event =>
      if call ∈ link.unanswered && call.answeredBy event then
        ({ link with
            queue := link.queue ++ [event]
            unanswered := link.unanswered.erase call }, [])
      else (link, [])
  | .other event =>
      if link.actor.session.isSome && !event.isLinkEvent then
        ({ link with queue := link.queue ++ [event] }, [])
      else (link, [])

/-- The link of an account, before any command. -/
def machine (accountId : AccountId) : Machine TradeLink (World × LinkInput) Effect where
  init := {}
  step link input := link.step accountId input.1 input.2

end TradeLink

/-! ## Waiting -/

/-- The actor is suspended in `drive_trade_login`. -/
def TradeActor.isLoggingIn (actor : TradeActor) : Bool :=
  actor.driver.any fun driver => !driver.isRequest

/-- A login that waits with nothing queued waits for the front or for an answer. -/
def WaitsForSomething (link : TradeLink) : Prop :=
  link.actor.isLoggingIn = true → link.queue = [] →
    link.connected = false ∨ link.unanswered ≠ []

instance (link : TradeLink) : Decidable (WaitsForSomething link) :=
  inferInstanceAs (Decidable (_ → _ → _ ∨ _))

/-- The events on which a login sends its next request or ends. -/
def TradeSessionEvent.isResponsive : TradeSessionEvent → Bool
  | .frontConnected | .authenticateOk | .authenticateFailed _ _ | .loginOk _ _ _
  | .loginFailed _ _ | .settlementConfirmed | .settlementConfirmFailed _ _
  | .error _ _ _ => true
  | _ => false

/-- Something is still to come: the front, an answer, or an event that is queued. -/
def TradeLink.IsLive (link : TradeLink) : Prop :=
  link.connected = false ∨ link.unanswered ≠ [] ∨
    ∃ event ∈ link.queue, event.isResponsive = true

instance (link : TradeLink) : Decidable link.IsLive :=
  inferInstanceAs (Decidable (_ ∨ _ ∨ ∃ event ∈ link.queue, event.isResponsive = true))

/-- The command is a login that will use a session left over from before. -/
def TradeActor.reusesSession (actor : TradeActor) : LinkInput → Bool
  | .command (.login _ _) =>
      actor.driver.isNone && actor.loggedInIds.isNone && actor.session.isSome
  | _ => false

/-- A login uses a session left over from before only while something is still to come. -/
def FindsLiveSession (link : TradeLink) (input : World × LinkInput) : Prop :=
  link.actor.reusesSession input.2 = true → link.IsLive

instance (link : TradeLink) (input : World × LinkInput) :
    Decidable (FindsLiveSession link input) :=
  inferInstanceAs (Decidable (_ → _))

/-! ## What an event does to a login -/

theorem isLoggingIn_iff {actor : TradeActor} :
    actor.isLoggingIn = true ↔ ∃ credentials replyTo loginIds,
      actor.driver = some (.tradeLogin credentials replyTo loginIds) := by
  rw [TradeActor.isLoggingIn, Option.any_eq_true]
  constructor
  · rintro ⟨driver, suspended, login⟩
    cases driver with
    | tradeLogin credentials replyTo loginIds =>
        exact ⟨credentials, replyTo, loginIds, suspended⟩
    | cancelOrder | queryAccount | queryPositions | queryOrders | queryTrades => cases login
  · rintro ⟨credentials, replyTo, loginIds, suspended⟩
    exact ⟨_, suspended, rfl⟩

/-- A request that goes through is accepted by the call. -/
theorem requested_of_ok {session : TradeSession} {rc rid : Int32} {call : String}
    {pending : Option PendingQuery} {field : Int32 → CtpRequest}
    (accepted : (session.request rc call pending field).result = .ok rid) :
    TradeActor.requested (session.request rc call pending field) =
      [.request (field (session.requestId + 1)) 0] := by
  rcases (session.request_result rc call pending field).mp ⟨rid, accepted⟩ with ⟨loaded, rfl⟩
  rcases Option.isSome_iff_exists.mp loaded with ⟨api, handle⟩
  simp only [TradeSession.request, handle, TradeActor.requested, List.map_cons, List.map_nil]

section LoginEvent

variable (accountId : AccountId) (world : World) {actor : TradeActor}
variable {session : TradeSession} {credentials : AccountCredentials} {replyTo : EnvelopeTx}
variable {loginIds : Option (Int32 × Int32)} {event : TradeSessionEvent}

theorem loginCalls_reportLoginFailure (login : Handling) :
    (reportLoginFailure accountId world replyTo login).outputs.filterMap Effect.loginCall =
      login.outputs.filterMap Effect.loginCall := by
  rw [reportLoginFailure]
  split
  · rw [List.filterMap_append]
    exact List.append_nil _
  · rfl

/-- A request of a login goes through, or ends the login. -/
theorem submit_calls {actor : TradeActor} {effects : List Effect} {rc : Int32} {call : String}
    {field : Int32 → CtpRequest} {driver : Int32 → Driver}
    (isCall : ∀ rid, (Effect.request (field rid) 0).loginCall.isSome) :
    (actor.submit effects (session.request rc call none field) driver).state.driver = none ∨
      (actor.submit effects (session.request rc call none field)
        driver).outputs.filterMap Effect.loginCall ≠ [] := by
  cases outcome : (session.request rc call none field).result with
  | error message => exact Or.inl (by rw [TradeActor.submit_of_error outcome]; rfl)
  | ok rid =>
      right
      rcases Option.isSome_iff_exists.mp (isCall (session.requestId + 1)) with ⟨sent, accepted⟩
      rw [TradeActor.submit_outputs, requested_of_ok outcome, List.filterMap_append]
      simp [accepted]

/-- On a responsive event a login sends a request that is accepted, or ends. -/
theorem login_of_responsive (responsive : event.isResponsive = true) :
    (driveTradeLoginEvent world actor session credentials replyTo loginIds
        event).state.driver = none ∨
      (driveTradeLoginEvent world actor session credentials replyTo loginIds
        event).outputs.filterMap Effect.loginCall ≠ [] := by
  cases event with
  | frontConnected | authenticateOk | loginOk => exact submit_calls fun rid => rfl
  | authenticateFailed | loginFailed | settlementConfirmed | settlementConfirmFailed
  | error => exact Or.inl rfl
  | frontDisconnected | heartBeatWarning | orderInsertRejected | orderReturn | tradeReturn
  | queryAccountReady | queryPositionsReady | queryOrdersReady | queryTradesReady
  | queryFailed | cancelActionOk | cancelActionFailed => cases responsive

/-- On any other event it waits on and sends nothing. -/
theorem login_of_not_responsive (other : event.isResponsive = false) :
    (driveTradeLoginEvent world actor session credentials replyTo loginIds event).state =
        { actor with driver := some (.tradeLogin credentials replyTo loginIds) } ∧
      (driveTradeLoginEvent world actor session credentials replyTo loginIds
        event).outputs.filterMap Effect.loginCall = [] := by
  cases event with
  | frontConnected | authenticateOk | loginOk | authenticateFailed | loginFailed
  | settlementConfirmed | settlementConfirmFailed | error => cases other
  | frontDisconnected | heartBeatWarning | orderInsertRejected | orderReturn | tradeReturn
  | queryAccountReady | queryPositionsReady | queryOrdersReady | queryTradesReady
  | queryFailed | cancelActionOk | cancelActionFailed => exact ⟨rfl, rfl⟩

end LoginEvent

/-! ## Something is always to come -/

/-- While a login is suspended, something is still to come. -/
def LoginLive (link : TradeLink) : Prop :=
  link.actor.isLoggingIn = true → link.IsLive

theorem isLive_append {link : TradeLink} (live : link.IsLive) (actor : TradeActor)
    (calls : List LoginCall) :
    TradeLink.IsLive { link with actor := actor, unanswered := link.unanswered ++ calls } := by
  rcases live with down | unanswered | queued
  · exact Or.inl down
  · exact Or.inr (Or.inl (List.append_ne_nil_of_left_ne_nil unanswered calls))
  · exact Or.inr (Or.inr queued)

/-- A suspended login takes an event in its receive loop. -/
theorem step_login (accountId : AccountId) (world : World) {actor : TradeActor}
    {session : TradeSession} {credentials : AccountCredentials} {replyTo : EnvelopeTx}
    {loginIds : Option (Int32 × Int32)} (present : actor.session = some session)
    (suspended : actor.driver = some (.tradeLogin credentials replyTo loginIds))
    (event : TradeSessionEvent) :
    actor.step accountId world (.event event) =
      ((driveTradeLoginEvent world actor session credentials replyTo loginIds event).state,
        (reportLoginFailure accountId world replyTo
          (driveTradeLoginEvent world actor session credentials replyTo loginIds
            event)).outputs) := by
  simp only [TradeActor.step, present, suspended, driverEvent, reportLoginFailure_state]

theorem loginLive_receive (accountId : AccountId) (link : TradeLink) (world : World)
    (live : LoginLive link) : LoginLive (link.receive accountId world).1 := by
  rw [TradeLink.receive]
  split
  · exact live
  next event rest queued =>
    cases ready : link.actor.takesEvent with
    | false => exact live
    | true =>
        intro loggingIn
        rcases isLoggingIn_iff.mp loggingIn with ⟨credentials, replyTo, loginIds, handled⟩
        rcases login_of_next accountId link.actor (world, .event event) handled with
          ⟨-, -, isCommand⟩ | ⟨ids, suspended⟩
        · cases isCommand
        · rw [TradeActor.takesEvent, Bool.and_eq_true] at ready
          rcases Option.isSome_iff_exists.mp ready.1 with ⟨session, present⟩
          have stepped := step_login accountId world present suspended event
          simp only [if_true, stepped, loginCalls_reportLoginFailure] at loggingIn ⊢
          cases responsive : event.isResponsive with
          | true =>
              rcases login_of_responsive world responsive with ended | calls
              · rw [TradeActor.isLoggingIn, ended] at loggingIn
                cases loggingIn
              · exact Or.inr (Or.inl (List.append_ne_nil_of_right_ne_nil _ calls))
          | false =>
              have before : TradeLink.IsLive { link with queue := rest } := by
                rcases live (isLoggingIn_iff.mpr ⟨_, _, _, suspended⟩) with
                  down | unanswered | ⟨later, member, acts⟩
                · exact Or.inl down
                · exact Or.inr (Or.inl unanswered)
                · rw [queued, List.mem_cons] at member
                  rcases member with rfl | member
                  · rw [responsive] at acts
                    cases acts
                  · exact Or.inr (Or.inr ⟨later, member, acts⟩)
              exact isLive_append before _ _

theorem loginLive_command (accountId : AccountId) (link : TradeLink) (world : World)
    (command : TradeSessionCommand) (live : LoginLive link)
    (finds : FindsLiveSession link (world, .command command)) :
    LoginLive (link.command accountId world command).1 := by
  cases suspended : link.actor.driver with
  | some driver =>
      have ignored : link.command accountId world command =
          ({ link with unanswered := link.unanswered ++ [] }, []) := by
        cases command <;>
          simp [TradeLink.command, TradeActor.step, suspended, TradeActor.connects,
            TradeActor.drops, TradeActor.releases]
      rw [ignored]
      intro loggingIn
      exact isLive_append (live loggingIn) link.actor []
  | none =>
      intro loggingIn
      have taken : link.actor.step accountId world (.command command) =
          ((handleTradeCommand accountId world link.actor command).state,
            (handleTradeCommand accountId world link.actor command).outputs) := by
        simp only [TradeActor.step, suspended]
      simp only [TradeLink.command, taken] at loggingIn ⊢
      cases fresh : (link.actor.connects (world, .command command)).isSome ||
          link.actor.drops (.command command) with
      | true => exact Or.inl rfl
      | false =>
          rw [fresh] at loggingIn
          rcases isLoggingIn_iff.mp loggingIn with ⟨credentials, replyTo, loginIds, handled⟩
          rcases handleTradeCommand_login accountId world link.actor command handled with
            ⟨loggedOut, rfl, -⟩
          cases present : link.actor.session with
          | some session =>
              have reuses : link.actor.reusesSession
                  (.command (.login credentials replyTo)) = true := by
                simp [TradeActor.reusesSession, suspended, loggedOut, present]
              exact isLive_append (finds reuses) _ _
          | none =>
              exfalso
              cases outcome : world.connect with
              | ok _ =>
                  simp [TradeActor.connects, suspended, loggedOut, present, outcome,
                    Except.isOk, Except.toBool] at fresh
              | error message =>
                  simp [handleTradeCommand, loggedOut, handleLoggedOutTradeCommand,
                    driveTradeLogin, present, outcome, TradeSession.connect] at handled

theorem loginLive_next (accountId : AccountId) (link : TradeLink) (input : World × LinkInput)
    (live : LoginLive link) (finds : FindsLiveSession link input) :
    LoginLive ((TradeLink.machine accountId).next link input) := by
  rcases input with ⟨world, input⟩
  simp only [Machine.next, TradeLink.machine, TradeLink.step]
  cases input with
  | command command => exact loginLive_command accountId link world command live finds
  | receive => exact loginLive_receive accountId link world live
  | frontConnected =>
      simp only
      split
      · intro _
        exact Or.inr (Or.inr ⟨.frontConnected, by simp, rfl⟩)
      · exact live
  | frontDisconnected reason lost =>
      simp only
      split
      · intro _
        exact Or.inl rfl
      · exact live
  | answer call event =>
      simp only
      split
      next answers =>
        intro _
        refine Or.inr (Or.inr ⟨event, by simp, ?_⟩)
        rw [Bool.and_eq_true] at answers
        cases call <;> cases event <;> first | rfl | cases answers.2
      · exact live
  | other event =>
      simp only
      split
      · intro loggingIn
        rcases live loggingIn with down | unanswered | ⟨later, member, acts⟩
        · exact Or.inl down
        · exact Or.inr (Or.inl unanswered)
        · exact Or.inr (Or.inr ⟨later, List.mem_append_left _ member, acts⟩)
      · exact live

/-! ## A login with nothing to come -/

/-- A suspended login to which nothing will come. -/
structure LoginStuck (link : TradeLink) : Prop where
  login : link.actor.isLoggingIn = true
  session : link.actor.session.isSome
  dead : ¬link.IsLive

/-- A login that uses a session with nothing to come is stuck. -/
theorem loginStuck_of_reuse (accountId : AccountId) (link : TradeLink)
    (input : World × LinkInput) (lost : ¬FindsLiveSession link input) :
    LoginStuck ((TradeLink.machine accountId).next link input) ∧
      ((TradeLink.machine accountId).next link input).queue = link.queue := by
  rcases Classical.not_imp.mp lost with ⟨reuses, dead⟩
  rcases input with ⟨world, input⟩
  cases input with
  | command command =>
      cases command with
      | login credentials replyTo =>
          simp only [TradeActor.reusesSession, Bool.and_eq_true, Option.isNone_iff_eq_none]
            at reuses
          rcases reuses with ⟨⟨idle, loggedOut⟩, connected⟩
          rcases Option.isSome_iff_exists.mp connected with ⟨session, present⟩
          have taken : link.actor.step accountId world (.command (.login credentials replyTo)) =
              ({ link.actor with
                  session := some session
                  driver := some (.tradeLogin credentials replyTo none) },
                [sendAccountState replyTo
                  (accountState world.clock credentials.accountId .connecting)]) := by
            simp [TradeActor.step, idle, handleTradeCommand, loggedOut,
              handleLoggedOutTradeCommand, driveTradeLogin, present, reportLoginFailure,
              TradeActor.waitIn]
          have reached : (TradeLink.machine accountId).next link
              (world, .command (.login credentials replyTo)) =
                { link with
                  actor := { link.actor with
                    session := some session
                    driver := some (.tradeLogin credentials replyTo none) }
                  unanswered := link.unanswered ++ [] } := by
            simp [Machine.next, TradeLink.machine, TradeLink.step, TradeLink.command, taken,
              TradeActor.connects, present, TradeActor.drops, TradeActor.releases,
              sendAccountState, Effect.loginCall]
          rw [reached]
          refine ⟨⟨rfl, rfl, ?_⟩, rfl⟩
          simpa only [TradeLink.IsLive, List.append_nil] using dead
      | placeOrder | cancelOrder | queryAccount | queryPosition | queryOrders | queryTrades
      | logout => cases reuses
  | receive | frontConnected | frontDisconnected | answer | other => cases reuses

/-- A stuck login skips what is queued. -/
theorem loginStuck_receive (accountId : AccountId) {link : TradeLink} (world : World)
    (stuck : LoginStuck link) {event : TradeSessionEvent} {rest : List TradeSessionEvent}
    (queued : link.queue = event :: rest) :
    LoginStuck ((TradeLink.machine accountId).next link (world, .receive)) ∧
      ((TradeLink.machine accountId).next link (world, .receive)).queue = rest := by
  rcases Option.isSome_iff_exists.mp stuck.session with ⟨session, present⟩
  rcases isLoggingIn_iff.mp stuck.login with ⟨credentials, replyTo, loginIds, suspended⟩
  have ready := TradeActor.takesEvent_of_suspended present suspended
  have silent : event.isResponsive = false := by
    cases responsive : event.isResponsive with
    | false => rfl
    | true => exact absurd (Or.inr (Or.inr ⟨event, by simp [queued], responsive⟩)) stuck.dead
  have waits : (driveTradeLoginEvent world link.actor session credentials replyTo loginIds
        event).state =
          { link.actor with driver := some (.tradeLogin credentials replyTo loginIds) } ∧
      (driveTradeLoginEvent world link.actor session credentials replyTo loginIds
        event).outputs.filterMap Effect.loginCall = [] :=
    login_of_not_responsive world silent
  have reached : (TradeLink.machine accountId).next link (world, .receive) =
      { link with
        actor :=
          { link.actor with driver := some (.tradeLogin credentials replyTo loginIds) }
        queue := rest
        unanswered := link.unanswered ++ [] } := by
    simp only [Machine.next, TradeLink.machine, TradeLink.step, TradeLink.receive, queued,
      ready, if_true, step_login accountId world present suspended event,
      loginCalls_reportLoginFailure, waits]
  rw [reached]
  refine ⟨⟨rfl, stuck.session, ?_⟩, rfl⟩
  rintro (down | unanswered | ⟨later, member, acts⟩)
  · exact stuck.dead (Or.inl down)
  · rw [List.append_nil] at unanswered
    exact stuck.dead (Or.inr (Or.inl unanswered))
  · refine stuck.dead (Or.inr (Or.inr ⟨later, ?_, acts⟩))
    rw [queued]
    exact List.mem_cons_of_mem event member

/-- A stuck login ends up waiting for nothing once it has seen what is queued. -/
theorem waitsForNothing_of_stuck (accountId : AccountId) (world : World) {link : TradeLink}
    (stuck : LoginStuck link) :
    ∃ rest, ¬WaitsForSomething ((TradeLink.machine accountId).runFrom link rest) := by
  have drained (events : List TradeSessionEvent) : ∀ link : TradeLink, LoginStuck link →
      link.queue = events →
        ∃ rest, ¬WaitsForSomething ((TradeLink.machine accountId).runFrom link rest) := by
    induction events with
    | nil =>
        intro link stuck empty
        refine ⟨[], ?_⟩
        intro waits
        rcases waits stuck.login empty with down | unanswered
        · exact stuck.dead (Or.inl down)
        · exact stuck.dead (Or.inr (Or.inl unanswered))
    | cons event events ih =>
        intro link stuck queued
        rcases loginStuck_receive accountId world stuck queued with ⟨still, left⟩
        rcases ih _ still left with ⟨rest, nothing⟩
        exact ⟨(world, .receive) :: rest, nothing⟩
  exact drained link.queue link stuck rfl

/-- In every run in which no login uses a session to which nothing will come, a login that
waits with nothing queued waits for the front or for an answer; and a run in which one
does can go on until it waits for nothing. -/
theorem logins_wait_for_something (accountId : AccountId) :
    (∀ inputs : List (World × LinkInput),
      (TradeLink.machine accountId).Always FindsLiveSession {} inputs →
        (TradeLink.machine accountId).Throughout WaitsForSomething {} inputs) ∧
      ∀ (inputs : List (World × LinkInput)) (input : World × LinkInput),
        ¬FindsLiveSession ((TradeLink.machine accountId).runFrom {} inputs) input →
          ∃ rest, ¬(TradeLink.machine accountId).Throughout WaitsForSomething {}
            (inputs ++ input :: rest) := by
  constructor
  · intro inputs finds
    refine Machine.throughout_of_always _ (loginLive_next accountId) ?_ ?_ finds
    · intro link live loggingIn empty
      rcases live loggingIn with down | unanswered | ⟨event, member, -⟩
      · exact Or.inl down
      · exact Or.inr unanswered
      · rw [empty] at member
        cases member
    · intro loggingIn
      exact Or.inl rfl
  · intro inputs input lost
    have stuck := (loginStuck_of_reuse accountId _ input lost).1
    rcases waitsForNothing_of_stuck accountId input.1 stuck with ⟨rest, nothing⟩
    refine ⟨rest, ?_⟩
    intro waits
    have reached := waits.runFrom
    rw [Machine.runFrom_append] at reached
    exact nothing reached

/-- A login that is refused leaves a session to which nothing will come: the next login
waits for nothing. -/
theorem retriedLogin_waits_for_nothing :
    ¬(TradeLink.machine ⟨"1001"⟩).Throughout WaitsForSomething {}
      ([.command (.login ⟨⟨"1001"⟩, "mistyped", "9999", "app", "auth"⟩ ⟨0⟩),
          .frontConnected, .receive, .answer .authenticate .authenticateOk, .receive,
          .answer .userLogin (.loginFailed 3 ""), .receive,
          .command (.login ⟨⟨"1001"⟩, "right", "9999", "app", "auth"⟩ ⟨0⟩)].map
        fun input => (World.accepting {}, input)) := by
  decide

/-- Where the front has come back in between, the next login has something to wait for. -/
theorem logins_wait_for_something_reconnected :
    (TradeLink.machine ⟨"1001"⟩).Throughout WaitsForSomething {}
      ([.command (.login ⟨⟨"1001"⟩, "mistyped", "9999", "app", "auth"⟩ ⟨0⟩),
          .frontConnected, .receive, .answer .authenticate .authenticateOk, .receive,
          .answer .userLogin (.loginFailed 3 ""), .receive, .frontDisconnected 4097 false,
          .frontConnected, .command (.login ⟨⟨"1001"⟩, "right", "9999", "app", "auth"⟩ ⟨0⟩),
          .receive, .receive].map
        fun input => (World.accepting {}, input)) :=
  (logins_wait_for_something ⟨"1001"⟩).1 _ (by decide)

end CtpSystem
