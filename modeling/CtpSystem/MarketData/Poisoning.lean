import CtpSystem.MarketData.Failures

/-!
# Failed subscriptions and the table

A failed Subscribe command leaves its instruments in the table, where they count as
subscribed: the next client that subscribes to one of them is not passed on to the exchange.
What mends that is a request that happens anyway, or that all subscribers leave.
-/

namespace CtpSystem

open Reactive

/-! ## The invariant -/

/-- Giving up the command that waits keeps the actor sound. -/
theorem sound_unwaiting {actor : MdActor} (sound : actor.Sound) :
    MdActor.Sound { actor with waiting := none } where
  connected := sound.connected
  waits := by
    intro waits
    exact absurd rfl waits
  fresh := sound.fresh

/-- A step of the market-data side keeps the actor sound. -/
theorem sound_step {system : MarketDataSystem} (sound : system.actor.Sound)
    (input : MarketDataInput) : (system.step input).1.actor.Sound := by
  cases input with
  | hello | subscribe | unsubscribe | remove => exact sound
  | publish number =>
      simp only [MarketDataSystem.step, MarketDataSystem.publish_actor]
      exact sound
  | event surroundings event => exact sound_event sound surroundings system.shared event
  | command surroundings =>
      simp only [MarketDataSystem.step]
      cases system.channel with
      | nil => exact sound
      | cons command rest =>
          cases system.actor.takesCommand with
          | false => exact sound
          | true => exact sound_command sound surroundings command

namespace MdService

/-- The table call an input makes. -/
def tableCall : MdServiceInput → Option TableCall
  | .other input => input.tableCall
  | .eventsEnd => none

theorem interest_eq (client key : String) (input : MdServiceInput) :
    interest client key input = (tableCall input).bind (TableCall.interest client key) := by
  cases input <;> rfl

/-- The actor is sound, and the table has no empty set. -/
structure Sound (service : MdService) : Prop where
  actor : service.system.actor.Sound
  noEmpty : NoEmptySet service.table

section Step

variable (service : MdService) (input : MdServiceInput)

/-- The table follows the calls the inputs make. -/
theorem table_next :
    (machine.next service input).table = (tableCall input).elim service.table
      fun call => (call.perform service.system.shared).1.marketDataSubscriptions := by
  have proceeds : ∀ input failed, (service.proceed input failed).1.table =
      input.tableCall.elim service.table
        fun call => (call.perform service.system.shared).1.marketDataSubscriptions := by
    intro input failed
    exact subscriptions_next service.system input
  simp only [Machine.next, machine]
  cases input with
  | eventsEnd =>
      simp only [step, endEvents]
      split <;> rfl
  | other input =>
      cases input with
      | hello | subscribe | unsubscribe | remove => exact proceeds _ []
      | publish number =>
          simp only [step]
          split
          · rfl
          · exact proceeds (.publish number) []
      | command | event =>
          simp only [step]
          split
          · rfl
          · exact proceeds _ _

variable {service}

theorem sound_next (sound : service.Sound) : (machine.next service input).Sound := by
  have proceeds : ∀ input failed, (service.proceed input failed).1.system.actor.Sound := by
    intro input failed
    exact sound_step sound.actor input
  constructor
  · simp only [Machine.next, machine]
    cases input with
    | eventsEnd =>
        simp only [step, endEvents]
        split
        · exact sound.actor
        · exact sound.actor
        · exact sound_unwaiting sound.actor
        · exact sound.actor
    | other input =>
        cases input with
        | hello | subscribe | unsubscribe | remove => exact proceeds _ []
        | publish | command | event =>
            simp only [step]
            split
            · exact sound.actor
            · exact proceeds _ _
  · rw [table_next]
    cases tableCall input with
    | none => exact sound.noEmpty
    | some call => exact noEmptySet_perform service.system.shared call sound.noEmpty

/-- An instrument leaves the table when the last of its subscribers does. -/
theorem dropped_iff (sound : service.Sound) {key : String} (present : key ∈ service.table) :
    key ∉ (machine.next service input).table ↔
      ∀ client ∈ subscribersOf service.table key, interest client key input = some false := by
  simp only [table_next, interest_eq]
  exact left_iff sound.noEmpty (tableCall input) present

end Step

/-! ## Requests -/

theorem flatMap_subscribed_proceed (service : MdService) (input : MarketDataInput)
    (failed : List MarketDataSessionCommand) :
    (service.proceed input failed).2.flatMap MdServiceEffect.subscribed =
      (service.system.step input).2.flatMap MdEffect.subscribed := by
  have silent : (failed.map MdServiceEffect.failed).flatMap MdServiceEffect.subscribed = [] := by
    rw [List.flatMap_map]
    exact List.flatMap_eq_nil_iff.mpr fun _ _ => rfl
  rw [proceed, List.flatMap_append, silent, List.append_nil, List.flatMap_map]
  rfl

end MdService

/-- A login request subscribes nothing. -/
theorem subscribed_login {session : MdSession} (connected : session.client = true)
    (rc : Int32) : (mdRequested (session.login rc)).flatMap MdEffect.subscribed = [] := by
  rw [MdSession.login, mdRequested_request connected]
  rfl

/-- What a command the actor takes passes to `subscribe`. -/
theorem subscribed_command {actor : MdActor} (sound : actor.Sound)
    (surroundings : MdSurroundings) (command : MarketDataSessionCommand) (key : String) :
    key ∈ (actor.command surroundings command).2.flatMap MdEffect.subscribed ↔
      actor.loggedIn = true ∧ key ∈ command.subscribed := by
  rcases command_case sound surroundings command with
    ⟨loggedOut, same⟩ | ⟨loggedOut, session, connected, same⟩ |
      ⟨loggedIn, session, connected, same⟩
  · simp [same, loggedOut]
  · simp [same, loggedOut]
  · rw [same, subscribed_performCommand connected, loggedIn]
    simp

/-- What an event leads the actor to pass to `subscribe`, for an instrument of the table. -/
theorem subscribed_event {actor : MdActor} (sound : actor.Sound)
    (surroundings : MdSurroundings) {shared : ServerActorState} (event : CtpEvent)
    {key : String} (present : key ∈ shared.marketDataSubscriptions) :
    key ∈ (actor.event surroundings shared event).2.flatMap MdEffect.subscribed ↔
      (∃ tradingDay, event = .loginOk tradingDay) ∧ actor.session.isSome = true ∧
        ∀ command ∈ actor.waiting, key ∈ command.subscribed := by
  rcases actor with ⟨session, loggedIn, waiting⟩
  cases session with
  | none => simp [MdActor.event]
  | some session =>
      have connected : session.client = true := sound.connected session rfl
      cases waiting with
      | none =>
          cases event with
          | frontConnected =>
              simp [MdActor.event, MdActor.handleMarketDataEvent, subscribed_login connected]
          | loginOk tradingDay =>
              have table := subscribed_resubscribeMarketData connected surroundings shared
              have listed : key ∈ (MdActor.resubscribeMarketData surroundings shared
                  session).flatMap MdEffect.subscribed := by
                rw [← List.mem_toFinset, table, mem_keySet]
                exact present
              simp only [MdActor.event, MdActor.handleMarketDataEvent, listed]
              simp
          | marketData tick =>
              simp [MdActor.event, MdActor.handleMarketDataEvent, fanoutMarketDataTick,
                MdEffect.subscribed]
          | frontDisconnected | heartBeatWarning | loginFailed | subscribeOk | subscribeFailed
          | error => simp [MdActor.event, MdActor.handleMarketDataEvent]
      | some command =>
          cases event with
          | frontConnected =>
              simp only [MdActor.event, MdActor.waitMarketDataLogin]
              split <;> simp [subscribed_login connected]
          | loginOk tradingDay =>
              simp only [MdActor.event, MdActor.waitMarketDataLogin,
                subscribed_performCommand connected]
              simp
          | frontDisconnected | heartBeatWarning | loginFailed | subscribeOk | subscribeFailed
          | marketData | error => simp [MdActor.event, MdActor.waitMarketDataLogin]

namespace MdService

variable {service : MdService}

/-- An instrument of the table is requested in the steps that ask for it. -/
theorem requested_iff (sound : service.Sound) (input : MdServiceInput) {key : String}
    (present : key ∈ service.table) :
    key ∈ (machine.emits service input).flatMap MdServiceEffect.subscribed ↔
      service.Asks key input := by
  simp only [Machine.emits, machine]
  cases input with
  | eventsEnd =>
      simp only [step, endEvents, Asks, iff_false]
      split <;> simp [MdServiceEffect.subscribed]
  | other input =>
      cases input with
      | hello | subscribe | unsubscribe | remove =>
          simp only [step, flatMap_subscribed_proceed, Asks]
          simp [MarketDataSystem.step]
      | publish number =>
          simp only [step, Asks, iff_false]
          split
          · simp [MdServiceEffect.subscribed]
          · rw [flatMap_subscribed_proceed]
            simp [MarketDataSystem.step]
      | command surroundings =>
          simp only [step, Asks]
          cases service.stopped with
          | true => simp
          | false =>
              simp only [Bool.false_eq_true, if_false, flatMap_subscribed_proceed, true_and]
              cases waiting : service.system.channel with
              | nil => simp [MarketDataSystem.step, waiting]
              | cons command rest =>
                  cases takes : service.system.actor.takesCommand with
                  | false => simp [MarketDataSystem.step, waiting, takes]
                  | true =>
                      rw [MarketDataSystem.step_command waiting takes,
                        subscribed_command sound.actor]
                      simp
      | event surroundings event =>
          simp only [step]
          cases running : service.stopped with
          | true => cases event <;> simp [Asks, running]
          | false =>
              simp only [Bool.false_eq_true, if_false, flatMap_subscribed_proceed]
              have asked := subscribed_event sound.actor surroundings event present
              apply asked.trans
              cases event <;> simp [Asks, running]

/-- A step requests an instrument of the table or drops it exactly when it mends. -/
theorem requestsOrDrops_iff (sound : service.Sound) (input : MdServiceInput) {key : String}
    (present : key ∈ service.table) :
    RequestsOrDrops key service input ↔ service.Mends key input := by
  rw [RequestsOrDrops, Mends, requested_iff sound input present,
    dropped_iff input sound present]

/-! ## Every run -/

/-- The rest of a run answers a failure about an instrument: it is not in the table, or it is
requested or leaves the table before a client subscribes to it again. -/
def Recovers (key : String) (service : MdService) (rest : List MdServiceInput) : Prop :=
  key ∉ service.table ∨
    machine.Until (Subscribes key) (RequestsOrDrops key) service rest

/-- A step that mends comes before a client subscribes to the instrument again, where it is
in the table. -/
def IsMended (key : String) (service : MdService) (rest : List MdServiceInput) : Prop :=
  key ∉ service.table ∨ machine.Until (Subscribes key) (Mends key) service rest

theorem recovers_iff (sound : service.Sound) (key : String) (rest : List MdServiceInput) :
    Recovers key service rest ↔ IsMended key service rest := by
  have preserved : ∀ service input, service.Sound ∧ key ∈ service.table →
      ¬ RequestsOrDrops key service input →
        (machine.next service input).Sound ∧ key ∈ (machine.next service input).table := by
    intro service input kept unanswered
    refine ⟨sound_next input kept.1, ?_⟩
    by_contra dropped
    exact unanswered (Or.inr dropped)
  have equivalent : ∀ service input, service.Sound ∧ key ∈ service.table →
      (RequestsOrDrops key service input ↔ Mends key service input) := by
    intro service input kept
    exact requestsOrDrops_iff kept.1 input kept.2
  rw [Recovers, IsMended]
  by_cases present : key ∈ service.table
  · rw [machine.until_congr preserved equivalent ⟨sound, present⟩]
  · simp [present]

end MdService

/-- A subscription to an instrument outside the table is passed on to the exchange. -/
theorem subscription_issued {state : ServerActorState}
    (noEmpty : NoEmptySet state.marketDataSubscriptions) (clientId : ClientId)
    {instruments : List InstrumentId} {key : String} (asked : ⟨key⟩ ∈ instruments)
    (absent : key ∉ state.marketDataSubscriptions) :
    ∃ exchange, (state.subscribeExchangeMarketData clientId instruments).2 =
      some (.subscribe exchange) ∧ ⟨key⟩ ∈ exchange := by
  have issued := (mem_subscribeInstruments_delta clientId noEmpty instruments key).mpr
    ⟨absent, asked⟩
  exact ⟨_, if_neg (List.ne_nil_of_mem issued), issued⟩

/-- In every run, whenever a Subscribe command fails each of its instruments is requested
again or leaves the table, before any client subscribes to it again, exactly when in each
case a step that mends comes first. -/
theorem failed_subscribes_recover_iff (inputs : List MdServiceInput) :
    MdService.machine.Followed MdService.GivesUp MdService.Recovers {} inputs ↔
      MdService.machine.Followed MdService.GivesUp MdService.IsMended {} inputs := by
  have preserved : ∀ service input, service.Sound →
      (MdService.machine.next service input).Sound := by
    intro service input sound
    exact MdService.sound_next input sound
  have equivalent : ∀ key service rest, MdService.Sound service →
      (MdService.Recovers key service rest ↔ MdService.IsMended key service rest) := by
    intro key service rest sound
    exact MdService.recovers_iff sound key rest
  have initial : MdService.Sound {} := by
    refine ⟨⟨?_, ?_, ?_⟩, tableReady_empty.noEmpty⟩
    · intro session present
      cases present
    · intro waits
      exact absurd rfl waits
    · intro _
      rfl
  exact MdService.machine.followed_congr preserved equivalent initial inputs

/-- The first connect of the session fails, and a second client subscribes to the same
instrument. -/
def MdServiceInput.refusedConnect : List MdServiceInput :=
  [.other (.subscribe ⟨"CY"⟩ [⟨"rb2610"⟩]), .other (.publish 0),
    .other (.command { MdSurroundings.accepting with connect := .error "MdApiBuilder failed" }),
    .other (.subscribe ⟨"HB"⟩ [⟨"rb2610"⟩])]

/-- The instrument stays in the table, was never requested, and the second subscription is
not passed on. -/
theorem refused_subscribe_poisons :
    ¬ MdService.machine.Followed MdService.GivesUp MdService.Recovers {}
        MdServiceInput.refusedConnect ∧
      (MdService.machine.runFrom {} MdServiceInput.refusedConnect).system.pending = [] := by
  refine ⟨?_, by decide⟩
  intro followed
  have given : MdService.GivesUp (MdService.machine.runFrom {}
      (MdServiceInput.refusedConnect.take 2)) (.other (.command { MdSurroundings.accepting with
        connect := .error "MdApiBuilder failed" })) "rb2610" := by
    rw [MdService.GivesUp]
    decide
  rcases followed.2.2.1 "rb2610" given with absent | answered
  · exact absent (by decide)
  · rcases answered with ⟨requested | dropped⟩ | ⟨unblocked, -⟩
    · revert requested
      decide
    · exact dropped (by decide)
    · exact unblocked (List.mem_singleton.mpr rfl)

end CtpSystem
