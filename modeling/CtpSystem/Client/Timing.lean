import CtpSystem.Client.Script

/-!
# When the requests of a session are due

The flags of the session stand for what it has received.  So a request goes out only after
what it waits for: the order after a tick and the answers to all queries, in a state that
says the account is logged in; the cancel on an update of that order; the logout after the
order was finished and the hold has elapsed.
-/

namespace CtpSystem

open Reactive

/-! ## What was received -/

/-- The account state an input tells. -/
def FlowInput.accountState : FlowInput → Option ConnectionState
  | .trading (some ⟨_, .accountStateUpdate state⟩) => some state.state
  | _ => none

/-- The instrument and price an input tells. -/
def FlowInput.tick : FlowInput → Option (InstrumentId × F64)
  | .marketData (some ⟨_, .marketDataTick tick⟩) => some (tick.instrumentId, tick.lastPrice)
  | _ => none

/-- A message came over the trading connection. -/
def Received (history : List FlowInput) (message : Message) : Prop :=
  ∃ clientId, .trading (some ⟨clientId, message⟩) ∈ history

theorem Received.mono {history : List FlowInput} {message : Message}
    (received : Received history message) (input : FlowInput) :
    Received (history ++ [input]) message := by
  rcases received with ⟨clientId, came⟩
  exact ⟨clientId, List.mem_append_left _ came⟩

theorem received_last (history : List FlowInput) {envelope : Envelope} {message : Message}
    (carried : envelope.payload = message) :
    Received (history ++ [.trading (some envelope)]) message := by
  rcases envelope with ⟨clientId, payload⟩
  cases carried
  exact ⟨clientId, by simp⟩

/-- An update of an order came that says it is over. -/
def Finished (history : List FlowInput) (clientOrderId : Option ClientOrderId) : Prop :=
  ∃ update, Received history (.orderUpdate update) ∧ isTerminalStatus update.status = true ∧
    clientOrderId = some update.clientOrderId

theorem Finished.mono {history : List FlowInput} {clientOrderId : Option ClientOrderId}
    (finished : Finished history clientOrderId) (input : FlowInput) :
    Finished (history ++ [input]) clientOrderId := by
  rcases finished with ⟨update, came, rest⟩
  exact ⟨update, came.mono input, rest⟩

namespace Flow

/-- What a session knows of its account, its instruments and its order was received. -/
structure Informed (flow : Flow) (history : List FlowInput) : Prop where
  loggedIn : flow.tradeLoggedIn = true →
    lastWord FlowInput.accountState history = some .loggedIn
  loggedOut : flow.tradeLoggedIn = false → flow.orderSent = true →
    ∃ state, lastWord FlowInput.accountState history = some state ∧ state ≠ .loggedIn
  tick : ∀ tick, flow.lastTick = some tick → lastWord FlowInput.tick history = some tick
  account : flow.queryAccountDone = true →
    ∃ balance, Received history (.queryAccountResult balance)
  positions : flow.queryPositionDone = true →
    ∃ positions, Received history (.queryPositionResult positions)
  orders : flow.queryOrdersDone = true →
    ∃ orders, Received history (.queryOrdersResult orders)
  trades : flow.queryTradesDone = true →
    ∃ trades, Received history (.queryTradesResult trades)
  finished : flow.orderFinished = true → Finished history flow.testOrderId
  held : flow.completionHoldDone = true → ∃ before after,
    history = before ++ .holdElapsed :: after ∧ Finished before flow.testOrderId

/-- What was received stays received; only the account state and the tick can be overtaken
by the new input. -/
theorem Informed.mono {flow : Flow} {history : List FlowInput}
    (informed : flow.Informed history) (input : FlowInput) (tradeLoggedIn : Bool)
    (lastTick : Option (InstrumentId × F64))
    (loggedIn : tradeLoggedIn = true →
      (input.accountState.or (lastWord FlowInput.accountState history)) = some .loggedIn)
    (loggedOut : tradeLoggedIn = false → flow.orderSent = true → ∃ state,
      (input.accountState.or (lastWord FlowInput.accountState history)) = some state ∧
        state ≠ .loggedIn)
    (ticked : ∀ tick, lastTick = some tick →
      (input.tick.or (lastWord FlowInput.tick history)) = some tick) :
    Informed { flow with tradeLoggedIn := tradeLoggedIn, lastTick := lastTick }
      (history ++ [input]) := by
  constructor
  case loggedIn =>
    rw [lastWord_append_singleton]
    exact loggedIn
  case loggedOut =>
    rw [lastWord_append_singleton]
    exact loggedOut
  case tick =>
    rw [lastWord_append_singleton]
    exact ticked
  case account => exact fun told => (informed.account told).imp fun _ came => came.mono input
  case positions => exact fun told => (informed.positions told).imp fun _ came => came.mono input
  case orders => exact fun told => (informed.orders told).imp fun _ came => came.mono input
  case trades => exact fun told => (informed.trades told).imp fun _ came => came.mono input
  case finished => exact fun told => (informed.finished told).mono input
  case held =>
    intro told
    rcases informed.held told with ⟨before, after, split, finished⟩
    exact ⟨before, after ++ [input], by rw [split, List.append_assoc]; rfl, finished⟩

/-- An input that tells nothing about the account or a tick keeps a session informed. -/
theorem Informed.keep {flow : Flow} {history : List FlowInput}
    (informed : flow.Informed history) (input : FlowInput)
    (noState : input.accountState = none) (noTick : input.tick = none) :
    flow.Informed (history ++ [input]) := by
  apply informed.mono input flow.tradeLoggedIn flow.lastTick
  · rw [noState, Option.none_or]
    exact informed.loggedIn
  · rw [noState, Option.none_or]
    exact informed.loggedOut
  · rw [noTick, Option.none_or]
    exact informed.tick

/-- What the session relies on besides: both clients carry its id, it knows the id of its
order once it has placed one, only that order can be finished, and the logout comes last. -/
structure Tidy (setup : FlowSetup) (flow : Flow) : Prop where
  named : flow.Named setup.clientId
  placed : flow.testOrderId.isSome = flow.orderSent
  finished : flow.orderFinished = true → flow.orderSent = true
  held : flow.holding = true ∨ flow.completionHoldDone = true → flow.orderFinished = true
  left : flow.logoutSent = true → flow.completionHoldDone = true

theorem Looping.tidy {setup : FlowSetup} {credentials : AccountCredentials}
    {instruments : List InstrumentId} {order : Option OrderRequest}
    {cancel : Option CancelRequest} {flow : Flow} {history : List FlowRequest}
    (looping : Looping setup credentials instruments order cancel flow history) :
    Tidy setup flow := by
  refine ⟨looping.named, ?_, looping.finished, looping.held, looping.left⟩
  rw [looping.placed, looping.sent, Option.isSome_map]

/-! ## The arms -/

section Arms

variable {setup : FlowSetup} {flow : Flow} {history : List FlowInput}

/-- A cancel goes out on an update of the test order that says it can be cancelled. -/
def CancelDue (setup : FlowSetup) (flow : Flow) (input : FlowInput) (request : FlowRequest) :
    Prop :=
  ∃ clientId update, input = .trading (some ⟨clientId, .orderUpdate update⟩) ∧
    isCancelableStatus update.status = true ∧
    flow.testOrderId = some update.clientOrderId ∧
    request = setup.trading (.cancelOrder (cancelOf update))

/-- What an arm leaves behind, and what it may have sent. -/
def Armed (setup : FlowSetup) (flow : Flow) (history : List FlowInput) (input : FlowInput)
    (after : Flow) (sent : List FlowRequest) : Prop :=
  Tidy setup after ∧ after.Informed (history ++ [input]) ∧
    after.testOrderId = flow.testOrderId ∧ after.stage = flow.stage ∧
    ∀ request ∈ sent, CancelDue setup flow input request

theorem armed_onOrderUpdate (world : FlowWorld) (tidy : flow.Tidy setup)
    (informed : flow.Informed history) (clientId : Option ClientId) (update : Order) :
    (flow.onOrderUpdate world update).Meets
      (Armed setup flow history (.trading (some ⟨clientId, .orderUpdate update⟩)))
      (fun _ sent => ∀ request ∈ sent,
        CancelDue setup flow (.trading (some ⟨clientId, .orderUpdate update⟩)) request) [] := by
  have still := informed.keep (.trading (some ⟨clientId, .orderUpdate update⟩)) rfl rfl
  rw [Flow.onOrderUpdate]
  split
  next own =>
    have cancelling : Attempt.Meets
        (if !flow.cancelSent && isCancelableStatus update.status then
          (flow.callTrading world (.cancelOrder (cancelOf update))).andThen
            fun flow => .done { flow with cancelSent := true }
        else .done flow)
        (Armed setup flow history (.trading (some ⟨clientId, .orderUpdate update⟩)))
        (fun _ sent => ∀ request ∈ sent,
          CancelDue setup flow (.trading (some ⟨clientId, .orderUpdate update⟩)) request)
        [] := by
      split
      next fires =>
        simp only [Bool.and_eq_true] at fires
        have due : ∀ request ∈ [setup.trading (.cancelOrder (cancelOf update))],
            CancelDue setup flow (.trading (some ⟨clientId, .orderUpdate update⟩)) request := by
          intro request member
          exact ⟨clientId, update, rfl, fires.2, own, List.mem_singleton.mp member⟩
        apply (sends_callTrading setup.clientId world (.cancelOrder (cancelOf update))).run
          tidy.named
        · intro trading marketData named
          exact Attempt.meets_done
            ⟨{ tidy with named := named }, { still with }, rfl, rfl, due⟩
        · intro after part shorter request member
          exact due request (shorter.subset member)
      next => exact Attempt.meets_done ⟨tidy, still, rfl, rfl, by simp⟩
    apply cancelling.andThen
    rintro after outputs ⟨tidyAfter, informedAfter, sameId, sameStage, due⟩
    apply Attempt.meets_done
    have ownAfter := sameId.trans own
    split
    next terminal =>
      refine ⟨{ tidyAfter with finished := fun _ => ?_, held := fun _ => rfl },
        { informedAfter with finished := fun _ => ?_ }, sameId, sameStage, due⟩
      · rw [← tidyAfter.placed, ownAfter]
        rfl
      · exact ⟨update, received_last history rfl, terminal, ownAfter⟩
    next => exact ⟨tidyAfter, informedAfter, sameId, sameStage, due⟩
  next => exact Attempt.meets_done ⟨tidy, still, rfl, rfl, by simp⟩

/-- Every arm keeps the session informed. -/
theorem armed_arm (world : FlowWorld) (input : FlowInput) (tidy : flow.Tidy setup)
    (informed : flow.Informed history) (awaited : flow.awaits input = true) :
    (flow.arm world input).Meets (Armed setup flow history input)
      (fun _ sent => ∀ request ∈ sent, CancelDue setup flow input request) [] := by
  have nothing : ∀ request ∈ ([] : List FlowRequest), CancelDue setup flow input request := by
    simp
  cases input with
  | start => cases awaited
  | deadline => exact Attempt.meets_fail nothing
  | holdElapsed =>
      apply Attempt.meets_done
      have still := informed.keep .holdElapsed rfl rfl
      have finished := tidy.held (Or.inl awaited)
      exact ⟨{ tidy with held := fun _ => finished, left := fun _ => rfl },
        { still with held := fun _ => ⟨history, [], rfl, informed.finished finished⟩ },
        rfl, rfl, nothing⟩
  | marketData envelope =>
      rcases envelope with _ | ⟨clientId, payload⟩
      · exact Attempt.meets_fail nothing
      · cases payload with
        | error => exact Attempt.meets_fail nothing
        | marketDataTick tick =>
            apply Attempt.meets_done
            have still := informed.mono (.marketData (some ⟨clientId, .marketDataTick tick⟩))
              flow.tradeLoggedIn (some (tick.instrumentId, tick.lastPrice)) informed.loggedIn
              informed.loggedOut (fun _ same => same)
            exact ⟨{ tidy with }, { still with }, rfl, rfl, nothing⟩
        | _ => exact Attempt.meets_done ⟨tidy, informed.keep _ rfl rfl, rfl, rfl, nothing⟩
  | trading envelope =>
      rcases envelope with _ | ⟨clientId, payload⟩
      · exact Attempt.meets_fail nothing
      · cases payload with
        | error => exact Attempt.meets_fail nothing
        | orderUpdate update => exact armed_onOrderUpdate world tidy informed clientId update
        | accountStateUpdate state =>
            apply Attempt.meets_done
            have still := informed.mono (.trading (some ⟨clientId, .accountStateUpdate state⟩))
              (decide (state.state = .loggedIn)) flow.lastTick
              (fun on => congrArg some (of_decide_eq_true on))
              (fun off _ => ⟨state.state, rfl, of_decide_eq_false off⟩) informed.tick
            exact ⟨{ tidy with }, { still with }, rfl, rfl, nothing⟩
        | queryAccountResult balance =>
            apply Attempt.meets_done
            exact ⟨{ tidy with }, { informed.keep _ rfl rfl with
              account := fun _ => ⟨balance, received_last history rfl⟩ }, rfl, rfl, nothing⟩
        | queryPositionResult positions =>
            apply Attempt.meets_done
            exact ⟨{ tidy with }, { informed.keep _ rfl rfl with
              positions := fun _ => ⟨positions, received_last history rfl⟩ }, rfl, rfl, nothing⟩
        | queryOrdersResult orders =>
            apply Attempt.meets_done
            exact ⟨{ tidy with }, { informed.keep _ rfl rfl with
              orders := fun _ => ⟨orders, received_last history rfl⟩ }, rfl, rfl, nothing⟩
        | queryTradesResult trades =>
            apply Attempt.meets_done
            exact ⟨{ tidy with }, { informed.keep _ rfl rfl with
              trades := fun _ => ⟨trades, received_last history rfl⟩ }, rfl, rfl, nothing⟩
        | _ => exact Attempt.meets_done ⟨tidy, informed.keep _ rfl rfl, rfl, rfl, nothing⟩

end Arms

/-! ## The top of the loop -/

section Head

variable {setup : FlowSetup} {world : FlowWorld} {accountId : AccountId}
variable {instruments : List InstrumentId} {flow : Flow} {history : List FlowInput}

/-- A request of the top of the loop goes out when its block is due. -/
def HeadDue (setup : FlowSetup) (world : FlowWorld) (accountId : AccountId)
    (instruments : List InstrumentId) (flow : Flow) (request : FlowRequest) : Prop :=
  request ∈ setup.queries accountId ∧ flow.tradeLoggedIn = true ∨
    (∃ order, request = setup.trading (.placeOrder order) ∧ flow.readyToOrder = true ∧
      buildPassiveTestOrder setup.env setup.floats world.millis accountId flow.lastTick =
        .ok order) ∨
    request ∈ setup.farewell accountId instruments ∧ flow.completionHoldDone = true

/-- What the top of the loop leaves behind, and what it has sent of what is due. -/
def Headed (setup : FlowSetup) (world : FlowWorld) (accountId : AccountId)
    (instruments : List InstrumentId) (flow : Flow) (history : List FlowInput) (after : Flow)
    (sent : List FlowRequest) : Prop :=
  Tidy setup after ∧ after.Informed history ∧
    after.completionHoldDone = flow.completionHoldDone ∧
    (after.stage = flow.stage ∨ after.tradeLoggedIn = false ∧ after.orderSent = true) ∧
    ∀ request ∈ sent, HeadDue setup world accountId instruments flow request

theorem headed_head (tidy : flow.Tidy setup) (informed : flow.Informed history) :
    (flow.head setup world accountId instruments).Meets
      (Headed setup world accountId instruments flow history)
      (fun _ sent => ∀ request ∈ sent,
        HeadDue setup world accountId instruments flow request) [] := by
  have queries : (flow.sendQueries world accountId).Meets
      (fun after sent => Headed setup world accountId instruments flow history after sent ∧
        after.readyToOrder = flow.readyToOrder ∧ after.lastTick = flow.lastTick)
      (fun _ sent => ∀ request ∈ sent,
        HeadDue setup world accountId instruments flow request) [] := by
    rw [Flow.sendQueries]
    split
    next fires =>
      simp only [Bool.and_eq_true] at fires
      have due : ∀ request ∈ setup.queries accountId,
          HeadDue setup world accountId instruments flow request :=
        fun request member => Or.inl ⟨member, fires.1⟩
      apply (sends_queries world setup accountId).run tidy.named
      · intro trading marketData named
        exact Attempt.meets_done
          ⟨⟨{ tidy with named := named }, { informed with }, rfl, Or.inl rfl, due⟩, rfl, rfl⟩
      · intro after part shorter request member
        exact due request (shorter.subset member)
    next => exact Attempt.meets_done ⟨⟨tidy, informed, rfl, Or.inl rfl, by simp⟩, rfl, rfl⟩
  have ordered : ((flow.sendQueries world accountId).andThen
      (Flow.sendTestOrder setup world accountId)).Meets
      (Headed setup world accountId instruments flow history)
      (fun _ sent => ∀ request ∈ sent,
        HeadDue setup world accountId instruments flow request) [] := by
    apply queries.andThen
    rintro between outputs ⟨⟨tidy, informed, hold, stays, due⟩, ready, tick⟩
    rw [Flow.sendTestOrder]
    split
    next fires =>
      split
      next => exact Attempt.meets_fail due
      next placed built =>
        rw [tick] at built
        have dueNow : ∀ request ∈ [] ++ outputs ++ [setup.trading (.placeOrder placed)],
            HeadDue setup world accountId instruments flow request := by
          intro request member
          rcases List.mem_append.mp member with earlier | now
          · exact due request earlier
          · exact Or.inr (Or.inl ⟨placed, List.mem_singleton.mp now, ready ▸ fires, built⟩)
        simp only [readyToOrder, Bool.and_eq_true, Bool.not_eq_eq_eq_not, Bool.not_true] at fires
        have on : between.tradeLoggedIn = true := fires.1.1.1.1.1.1
        have same : between.stage = flow.stage := by
          apply stays.resolve_right
          rintro ⟨off, -⟩
          rw [on] at off
          cases off
        have unfinished : between.orderFinished = false := by
          by_contra finished
          have sent := tidy.finished (by simpa using finished)
          rw [fires.2] at sent
          cases sent
        apply (sends_callTrading setup.clientId world (.placeOrder placed)).run
        · exact tidy.named
        · intro trading marketData named
          refine Attempt.meets_done ⟨{ tidy with
            named := named, placed := rfl, finished := fun _ => rfl }, { informed with
            loggedOut := fun off => ?_
            finished := fun finished => ?_
            held := fun held => ?_ }, hold, Or.inl same, dueNow⟩
          · rw [show between.tradeLoggedIn = false from off] at on
            cases on
          · rw [show between.orderFinished = true from finished] at unfinished
            cases unfinished
          · rw [tidy.held (Or.inr held)] at unfinished
            cases unfinished
        · intro after part shorter request member
          rcases List.mem_append.mp member with earlier | now
          · exact due request earlier
          · exact dueNow request (List.mem_append_right _ (shorter.subset now))
    next => exact Attempt.meets_done ⟨tidy, informed, hold, stays, due⟩
  have farewell : (((flow.sendQueries world accountId).andThen
      (Flow.sendTestOrder setup world accountId)).andThen
        fun flow => Flow.sendFarewell world accountId instruments flow.startHold).Meets
      (Headed setup world accountId instruments flow history)
      (fun _ sent => ∀ request ∈ sent,
        HeadDue setup world accountId instruments flow request) [] := by
    apply ordered.andThen
    rintro between outputs ⟨tidy, informed, hold, stays, due⟩
    have holding : Headed setup world accountId instruments flow history between.startHold
        ([] ++ outputs) := by
      rw [startHold]
      split
      next fires =>
        simp only [Bool.and_eq_true] at fires
        exact ⟨{ tidy with held := fun _ => fires.1.1 }, { informed with }, hold, stays, due⟩
      next => exact ⟨tidy, informed, hold, stays, due⟩
    rcases holding with ⟨tidy, informed, hold, stays, due⟩
    rw [Flow.sendFarewell]
    split
    next fires =>
      simp only [Bool.and_eq_true] at fires
      have dueNow : ∀ request ∈ [] ++ outputs ++ setup.farewell accountId instruments,
          HeadDue setup world accountId instruments flow request := by
        intro request member
        rcases List.mem_append.mp member with earlier | now
        · exact due request earlier
        · exact Or.inr (Or.inr ⟨now, hold.symm.trans fires.1⟩)
      apply (sends_farewell world setup accountId instruments).run tidy.named
      · intro trading marketData named
        exact Attempt.meets_done
          ⟨{ tidy with named := named, left := fun _ => fires.1 }, { informed with }, hold,
            stays, dueNow⟩
      · intro after part shorter request member
        rcases List.mem_append.mp member with earlier | now
        · exact due request earlier
        · exact dueNow request (List.mem_append_right _ (shorter.subset now))
    next => exact Attempt.meets_done ⟨tidy, informed, hold, stays, due⟩
  apply farewell.andThen
  rintro between outputs ⟨tidy, informed, hold, stays, due⟩
  apply Attempt.meets_done
  rw [leave]
  split
  next leaves =>
    simp only [Bool.and_eq_true, Bool.not_eq_eq_eq_not, Bool.not_true] at leaves
    have ordered := tidy.finished (tidy.held (Or.inr (tidy.left leaves.1)))
    exact ⟨{ tidy with }, { informed with }, hold, Or.inr ⟨leaves.2, ordered⟩, due⟩
  next => exact ⟨tidy, informed, hold, stays, due⟩

end Head

/-! ## The session -/

section Session

variable {setup : FlowSetup} {flow : Flow} {history : List FlowInput}

theorem Fresh.informed (fresh : flow.Fresh setup) (history : List FlowInput) :
    flow.Informed history := by
  rcases fresh with ⟨-, trading, marketData, stage, rfl⟩
  constructor
  case tick => rintro tick ⟨⟩
  case loggedOut => rintro - ⟨⟩
  all_goals rintro ⟨⟩

/-- Every request of a step is one of the entrance, or due in the loop. -/
def RequestDue (setup : FlowSetup) (flow : Flow) (history : List FlowInput)
    (world : FlowWorld) (input : FlowInput) (request : FlowRequest) : Prop :=
  request ∈ setup.greetings ∨
    (∃ credentials, request = setup.trading (.accountLogin credentials)) ∨
    (∃ instruments, request = setup.marketData (.subscribeMarketData instruments)) ∨
    ∃ credentials instruments, flow.stage = .running credentials instruments ∧
      loadTradeCredentials setup.env = .ok credentials ∧
      (CancelDue setup flow input request ∨
        ∃ armed, armed.Informed (history ++ [input]) ∧
          armed.testOrderId = flow.testOrderId ∧
          HeadDue setup world credentials.accountId instruments armed request)

/-- A session in its loop is informed. -/
def Aware (flow : Flow) (history : List FlowInput) : Prop :=
  (∃ result, flow.stage = .ended result) ∨ flow.Informed history

/-- The account was last said to be out of its login. -/
def LoggedOut (history : List FlowInput) : Prop :=
  ∃ state, lastWord FlowInput.accountState history = some state ∧ state ≠ .loggedIn

/-- What a step leaves behind, and what it has sent of what is due. -/
def Advanced (setup : FlowSetup) (flow : Flow) (history : List FlowInput) (world : FlowWorld)
    (input : FlowInput) (after : Flow) (sent : List FlowRequest) : Prop :=
  after.Aware (history ++ [input]) ∧
    (flow.stage ≠ .ended (.ok ()) → after.stage = .ended (.ok ()) →
      LoggedOut (history ++ [input])) ∧
    ∀ request ∈ sent, RequestDue setup flow history world input request

/-- A fresh session sends nothing at the top of its loop. -/
theorem not_headDue_of_fresh {world : FlowWorld} {accountId : AccountId}
    {instruments : List InstrumentId} {request : FlowRequest} (fresh : flow.Fresh setup) :
    ¬HeadDue setup world accountId instruments flow request := by
  rcases fresh with ⟨-, trading, marketData, stage, rfl⟩
  rintro (⟨-, absent⟩ | ⟨-, -, absent, -⟩ | ⟨-, absent⟩) <;> cases absent

theorem advanced_enter (world : FlowWorld) (input : FlowInput) (fresh : flow.Fresh setup) :
    (flow.enter setup world).Meets (Advanced setup flow history world input)
      (fun _ sent => ∀ request ∈ sent, RequestDue setup flow history world input request)
      [] := by
  rw [Flow.enter]
  split
  next => exact Attempt.meets_fail (by simp)
  next credentials loaded =>
    have login : ∀ request ∈ [setup.trading (.accountLogin credentials)],
        RequestDue setup flow history world input request := by
      intro request member
      exact Or.inr (Or.inl ⟨credentials, List.mem_singleton.mp member⟩)
    apply (sends_callTrading setup.clientId world (.loginAccount credentials)).run fresh.1
    · intro trading marketData named
      split
      next => exact Attempt.meets_fail login
      next value given =>
        have both : ∀ request ∈ [setup.trading (.accountLogin credentials)] ++
            [setup.marketData (.subscribeMarketData (parseInstruments value))],
            RequestDue setup flow history world input request := by
          intro request member
          rcases List.mem_append.mp member with earlier | now
          · exact login request earlier
          · exact Or.inr (Or.inr (Or.inl ⟨_, List.mem_singleton.mp now⟩))
        have subscribing : Attempt.Meets
            ((callMarketData world (.subscribe (parseInstruments value))
              { flow with trading := trading, marketData := marketData }).andThen
              fun flow => .done { flow with
                stage := .running credentials (parseInstruments value) })
            (fun after sent => after.Fresh setup ∧
              after.stage = .running credentials (parseInstruments value) ∧
              ∀ request ∈ sent, RequestDue setup flow history world input request)
            (fun _ sent => ∀ request ∈ sent,
              RequestDue setup flow history world input request)
            ([] ++ [setup.trading (.accountLogin credentials)]) := by
          apply (sends_callMarketData setup.clientId world
            (.subscribe (parseInstruments value))).run named
          · intro trading marketData named
            rcases fresh with ⟨-, before, beside, stage, rfl⟩
            exact Attempt.meets_done ⟨⟨named, trading, marketData, _, rfl⟩, rfl, both⟩
          · intro after part shorter request member
            rcases List.mem_append.mp member with earlier | now
            · exact login request earlier
            · exact both request (List.mem_append_right _ (shorter.subset now))
        apply subscribing.andThen
        rintro after outputs ⟨freshAfter, looping, due⟩
        have tidy : after.Tidy setup := by
          rcases freshAfter with ⟨named, trading, marketData, stage, rfl⟩
          refine ⟨named, rfl, ?_, ?_, ?_⟩
          · rintro ⟨⟩
          · rintro (absent | absent) <;> cases absent
          · rintro ⟨⟩
        apply ((headed_head tidy (freshAfter.informed (history ++ [input]))).frame _).mono
        · rintro last rest ⟨own, sent, -, informed, -, stays, dueNow⟩
          refine ⟨Or.inr informed, ?_, ?_⟩
          · rintro - ended
            rcases stays with same | ⟨off, ordered⟩
            · rw [ended, looping] at same
              cases same
            · exact informed.loggedOut off ordered
          rw [sent]
          intro request member
          rcases List.mem_append.mp member with earlier | now
          · exact due request earlier
          · exact absurd (dueNow request now) (not_headDue_of_fresh freshAfter)
        · rintro last rest ⟨own, sent, dueNow⟩
          rw [sent]
          intro request member
          rcases List.mem_append.mp member with earlier | now
          · exact due request earlier
          · exact absurd (dueNow request now) (not_headDue_of_fresh freshAfter)
    · intro after part shorter request member
      exact login request (shorter.subset member)

theorem advanced_head {world : FlowWorld} {input : FlowInput}
    {credentials : AccountCredentials} {instruments : List InstrumentId} {armed : Flow}
    {sent : List FlowRequest} (running : flow.stage = .running credentials instruments)
    (loaded : loadTradeCredentials setup.env = .ok credentials)
    (reached : Armed setup flow history input armed sent) :
    (armed.head setup world credentials.accountId instruments).Meets
      (Advanced setup flow history world input)
      (fun _ sent => ∀ request ∈ sent, RequestDue setup flow history world input request)
      sent := by
  rcases reached with ⟨tidy, informed, sameId, sameStage, cancels⟩
  have due (requests : List FlowRequest)
      (dueNow : ∀ request ∈ requests,
        HeadDue setup world credentials.accountId instruments armed request) :
      ∀ request ∈ sent ++ requests,
        RequestDue setup flow history world input request := by
    intro request member
    rcases List.mem_append.mp member with earlier | now
    · exact Or.inr (Or.inr (Or.inr
        ⟨credentials, instruments, running, loaded, Or.inl (cancels request earlier)⟩))
    · exact Or.inr (Or.inr (Or.inr ⟨credentials, instruments, running, loaded,
        Or.inr ⟨armed, informed, sameId, dueNow request now⟩⟩))
  apply ((headed_head tidy informed).frame sent).mono
  · rintro last rest ⟨own, outputs, -, informed, -, stays, dueNow⟩
    refine ⟨Or.inr informed, ?_, by rw [outputs]; exact due own dueNow⟩
    rintro - ended
    rcases stays with same | ⟨off, ordered⟩
    · rw [ended, sameStage, running] at same
      cases same
    · exact informed.loggedOut off ordered
  · rintro last rest ⟨own, outputs, dueNow⟩
    rw [outputs]
    exact due own dueNow

/-- Outside its loop a session on its script knows nothing, or has ended. -/
theorem aware_of_scripted {sent : List FlowRequest} (scripted : flow.Scripted setup sent)
    (outside : ∀ credentials instruments, flow.stage ≠ .running credentials instruments)
    (history : List FlowInput) : flow.Aware history := by
  rw [Scripted] at scripted
  split at scripted
  next => exact Or.inr (scripted.1.informed history)
  next => exact Or.inr (scripted.1.informed history)
  next => exact Or.inr (scripted.1.informed history)
  next running => exact absurd running (outside _ _)
  next result ended => exact Or.inl ⟨result, ended⟩

theorem advanced_connectBoth (world : FlowWorld) (input : FlowInput)
    (fresh : flow.Fresh setup) :
    (flow.connectBoth world).Meets (Advanced setup flow history world input)
      (fun _ sent => ∀ request ∈ sent, RequestDue setup flow history world input request)
      [] := by
  have block : Sends setup.clientId
      (fun flow => (callTrading world .connect flow).andThen (callMarketData world .connect))
      setup.greetings :=
    (sends_callTrading _ world _).andThen (sends_callMarketData _ world _)
  apply block.run fresh.1
  · intro trading marketData named
    rcases fresh with ⟨-, before, beside, stage, rfl⟩
    have freshAfter : Fresh setup
        { trading := trading, marketData := marketData, stage := .awaitingTrading } :=
      ⟨named, trading, marketData, .awaitingTrading, rfl⟩
    refine Attempt.meets_done ⟨Or.inr (freshAfter.informed _), ?_, fun request => Or.inl⟩
    rintro - ⟨⟩
  · intro after part shorter request member
    exact Or.inl (shorter.subset member)

/-- Every step of a session on its script keeps it informed, and sends what is due. -/
theorem advanced_step (input : FlowWorld × FlowInput) {sent : List FlowRequest}
    (scripted : flow.Scripted setup sent) (aware : flow.Aware history) :
    (flow.advance setup input.1 input.2).Meets (Advanced setup flow history input.1 input.2)
      (fun _ sent => ∀ request ∈ sent, RequestDue setup flow history input.1 input.2 request)
      [] := by
  have unmoved {after : Flow} (aware : after.Aware (history ++ [input.2]))
      (same : after.stage = .ended (.ok ()) → flow.stage = .ended (.ok ())) :
      (Attempt.done after : FlowAttempt).Meets (Advanced setup flow history input.1 input.2)
        (fun _ sent => ∀ request ∈ sent, RequestDue setup flow history input.1 input.2 request)
        [] :=
    Attempt.meets_done ⟨aware, fun unended ended => absurd (same ended) unended, by simp⟩
  simp only [Flow.advance]
  split
  next starting _ =>
    rw [Scripted, starting] at scripted
    exact advanced_connectBoth input.1 _ scripted.1
  next waiting _ =>
    rw [Scripted, waiting] at scripted
    exact unmoved (Or.inr ((scripted.1.of_stage .awaitingMarketData).informed _)) (by simp)
  next waiting _ =>
    rw [Scripted, waiting] at scripted
    exact advanced_enter input.1 _ scripted.1
  next credentials instruments running =>
    rw [Scripted, running] at scripted
    rcases scripted with ⟨order, cancel, looping⟩
    have informed : flow.Informed history := by
      apply aware.resolve_left
      rintro ⟨result, ended⟩
      rw [running] at ended
      cases ended
    split
    next awaited =>
      have arming : (flow.arm input.1 input.2).Meets (Armed setup flow history input.2)
          (fun _ sent => ∀ request ∈ sent,
            RequestDue setup flow history input.1 input.2 request) [] := by
        apply (armed_arm input.1 input.2 looping.tidy informed awaited).mono
        · intro armed outputs reached
          exact reached
        · intro armed outputs due request member
          exact Or.inr (Or.inr (Or.inr
            ⟨credentials, instruments, running, looping.entered.1, Or.inl (due request member)⟩))
      apply arming.andThen
      intro armed outputs reached
      exact advanced_head running looping.entered.1 reached
    next ignored =>
      have still : flow.Informed (history ++ [input.2]) := by
        cases given : input.2 with
        | holdElapsed => exact informed.keep _ rfl rfl
        | start => exact informed.keep _ rfl rfl
        | _ =>
            rw [given] at ignored
            exact absurd rfl ignored
      exact unmoved (Or.inr still) id
  next outside _ _ _ => exact unmoved (aware_of_scripted scripted outside _) id

theorem advanced_next (world : FlowWorld) (input : FlowInput) {sent : List FlowRequest}
    (scripted : flow.Scripted setup sent) (aware : flow.Aware history) :
    ((machine setup).next flow (world, input)).Aware (history ++ [input]) ∧
      (flow.stage ≠ .ended (.ok ()) →
        ((machine setup).next flow (world, input)).stage = .ended (.ok ()) →
          LoggedOut (history ++ [input])) ∧
      ∀ request ∈ (machine setup).emits flow (world, input),
        RequestDue setup flow history world input request := by
  have meets := advanced_step (world, input) scripted aware
  change (conclude (flow.advance setup world input)).Aware _ ∧
    (_ → (conclude (flow.advance setup world input)).stage = _ → _) ∧
    ∀ request ∈ (flow.advance setup world input).outputs, _
  cases ended : (flow.advance setup world input).result with
  | ok =>
      rw [Attempt.Meets, ended] at meets
      rw [conclude, ended]
      exact meets
  | error error =>
      rw [Attempt.Meets, ended] at meets
      rw [conclude, ended]
      refine ⟨Or.inl ⟨_, rfl⟩, ?_, meets⟩
      rintro - ⟨⟩

end Session

section Due

variable {setup : FlowSetup} {flow : Flow} {history : List FlowInput} {world : FlowWorld}
variable {input : FlowInput}

end Due

end Flow

end CtpSystem
