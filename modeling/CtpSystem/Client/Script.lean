import CtpSystem.Client.Blocks

/-!
# The script of a session

Whatever the server sends and whenever it sends it, the terminal's requests follow one
script: each line at most once, in order, and all of them before it ends without an error.
Only the cancel has no place of its own.
-/

namespace CtpSystem

open Reactive

/-! ## The script -/

/-- A cancel request. -/
def FlowRequest.isCancel : FlowRequest → Bool
  | .trading ⟨_, .cancelOrder _⟩ => true
  | _ => false

namespace FlowSetup

variable (setup : FlowSetup)

/-- A request on the trading connection. -/
def trading (message : Message) : FlowRequest := .trading ⟨some setup.clientId, message⟩

/-- A request on the market-data connection. -/
def marketData (message : Message) : FlowRequest := .marketData ⟨some setup.clientId, message⟩

/-- The first lines: a hello on both connections. -/
def greetings : List FlowRequest :=
  [setup.trading (.hello setup.clientId), setup.marketData (.marketDataHello setup.clientId)]

/-- The state of the account is asked for in four queries. -/
def queries (accountId : AccountId) : List FlowRequest :=
  [setup.trading (.queryAccount accountId), setup.trading (.queryPosition accountId none),
    setup.trading (.queryOrders accountId), setup.trading (.queryTrades accountId)]

/-- The last lines: the subscription and the login are undone. -/
def farewell (accountId : AccountId) (instruments : List InstrumentId) : List FlowRequest :=
  [setup.marketData (.unsubscribeMarketData instruments),
    setup.trading (.accountLogout accountId)]

/-- The lines from the loop on. -/
def loopScript (accountId : AccountId) (instruments : List InstrumentId)
    (order : Option OrderRequest) : List FlowRequest :=
  setup.queries accountId ++
    match order with
    | none => []
    | some order => setup.trading (.placeOrder order) :: setup.farewell accountId instruments

/-- The whole script, with the order that is placed, if any; it stops where the environment
does not name the credentials or the instruments. -/
def script (order : Option OrderRequest) : List FlowRequest :=
  setup.greetings ++
    match loadTradeCredentials setup.env with
    | .error _ => []
    | .ok credentials =>
        setup.trading (.accountLogin credentials) ::
          match requiredEnv setup.env "CTP_INSTRUMENTS" with
          | .error _ => []
          | .ok value =>
              setup.marketData (.subscribeMarketData (parseInstruments value)) ::
                setup.loopScript credentials.accountId (parseInstruments value) order

end FlowSetup

/-- The cancel comes after the order it names: the order was placed before. -/
def CancelsPlaced (setup : FlowSetup) (order : Option OrderRequest)
    (history : List FlowRequest) (request : CancelRequest) : Prop :=
  ∃ placed before after, order = some placed ∧
    request.clientOrderId = some placed.clientOrderId ∧
    history = before ++ setup.trading (.cancelOrder request) :: after ∧
    setup.trading (.placeOrder placed) ∈ before

theorem CancelsPlaced.append {setup : FlowSetup} {order : Option OrderRequest}
    {history : List FlowRequest} {request : CancelRequest}
    (names : CancelsPlaced setup order history request) (later : List FlowRequest) :
    CancelsPlaced setup order (history ++ later) request := by
  rcases names with ⟨placed, before, after, ordered, same, rfl, earlier⟩
  exact ⟨placed, before, after ++ later, ordered, same, by simp, earlier⟩

/-- The requests follow the script with an order, and the only cancel, if there is one, comes
after that order and names its id. -/
structure Follows (setup : FlowSetup) (order : Option OrderRequest)
    (cancel : Option CancelRequest) (history : List FlowRequest) : Prop where
  line : history.filter (!·.isCancel) <+: setup.script order
  cancels : history.filter (·.isCancel) =
    cancel.toList.map fun request => setup.trading (.cancelOrder request)
  names : ∀ request, cancel = some request → CancelsPlaced setup order history request

namespace Flow

/-- What holds at the top of the loop and in its arms: which lines were sent is recorded in
the flags, and each flag is set after those before it. -/
structure Looping (setup : FlowSetup) (credentials : AccountCredentials)
    (instruments : List InstrumentId) (order : Option OrderRequest)
    (cancel : Option CancelRequest) (flow : Flow) (history : List FlowRequest) : Prop where
  named : flow.Named setup.clientId
  stage : flow.stage = .running credentials instruments
  entered : loadTradeCredentials setup.env = .ok credentials ∧
    ∃ value, requiredEnv setup.env "CTP_INSTRUMENTS" = .ok value ∧
      parseInstruments value = instruments
  line : history.filter (!·.isCancel) =
    setup.greetings ++ [setup.trading (.accountLogin credentials),
        setup.marketData (.subscribeMarketData instruments)] ++
      (if flow.queriesSent then setup.queries credentials.accountId else []) ++
      order.toList.map (fun placed => setup.trading (.placeOrder placed)) ++
      if flow.logoutSent then setup.farewell credentials.accountId instruments else []
  cancels : history.filter (·.isCancel) =
    cancel.toList.map fun request => setup.trading (.cancelOrder request)
  names : ∀ request, cancel = some request → CancelsPlaced setup order history request
  uncancelled : flow.cancelSent = false → cancel = none
  placed : flow.testOrderId = order.map (·.clientOrderId)
  sent : flow.orderSent = order.isSome
  queried : flow.orderSent = true → flow.queriesSent = true
  finished : flow.orderFinished = true → flow.orderSent = true
  held : flow.holding = true ∨ flow.completionHoldDone = true → flow.orderFinished = true
  left : flow.logoutSent = true → flow.completionHoldDone = true

/-- The script from the entrance on. -/
theorem script_of_entered {setup : FlowSetup} {credentials : AccountCredentials}
    {instruments : List InstrumentId}
    (entered : loadTradeCredentials setup.env = .ok credentials ∧
      ∃ value, requiredEnv setup.env "CTP_INSTRUMENTS" = .ok value ∧
        parseInstruments value = instruments) (order : Option OrderRequest) :
    setup.script order =
      setup.greetings ++ [setup.trading (.accountLogin credentials),
        setup.marketData (.subscribeMarketData instruments)] ++
      setup.loopScript credentials.accountId instruments order := by
  rcases entered with ⟨loaded, value, given, rfl⟩
  simp [FlowSetup.script, loaded, given]

section Looping

variable {setup : FlowSetup} {credentials : AccountCredentials}
variable {instruments : List InstrumentId} {order : Option OrderRequest}
variable {cancel : Option CancelRequest} {flow : Flow} {history : List FlowRequest}

/-- The order was placed. -/
theorem Looping.mem_of_placed {placed : OrderRequest}
    (looping : Looping setup credentials instruments order cancel flow history)
    (ordered : order = some placed) : setup.trading (.placeOrder placed) ∈ history := by
  have line : setup.trading (.placeOrder placed) ∈ history.filter (!·.isCancel) := by
    rw [looping.line, ordered]
    simp
  exact List.mem_of_mem_filter line

/-- Without an order there is no logout. -/
theorem Looping.logoutSent_of_none
    (looping : Looping setup credentials instruments none cancel flow history) :
    flow.logoutSent = false := by
  by_contra sent
  have ordered := looping.finished (looping.held (Or.inr (looping.left (by simpa using sent))))
  rw [looping.sent] at ordered
  cases ordered

/-- What was sent in the loop follows the script. -/
theorem Looping.follows
    (looping : Looping setup credentials instruments order cancel flow history) :
    Follows setup order cancel history := by
  refine ⟨?_, looping.cancels, looping.names⟩
  rw [looping.line, script_of_entered looping.entered]
  cases order with
  | none =>
      rw [looping.logoutSent_of_none]
      cases flow.queriesSent <;> simp [FlowSetup.loopScript]
  | some placed =>
      rw [looping.queried looping.sent]
      cases flow.logoutSent <;> simp [FlowSetup.loopScript]

theorem filter_append_plain (history : List FlowRequest) {requests : List FlowRequest}
    (plain : ∀ request ∈ requests, request.isCancel = false) :
    (history ++ requests).filter (!·.isCancel) = history.filter (!·.isCancel) ++ requests ∧
      (history ++ requests).filter (·.isCancel) = history.filter (·.isCancel) := by
  have own : requests.filter (!·.isCancel) = requests :=
    List.filter_eq_self.mpr (by simpa using plain)
  have none : requests.filter (·.isCancel) = [] :=
    List.filter_eq_nil_iff.mpr (by simpa using plain)
  rw [List.filter_append, List.filter_append, own, none, List.append_nil]
  exact ⟨rfl, rfl⟩

/-- Part of the next lines follows the script as well. -/
theorem follows_append (history : List FlowRequest) {requests part : List FlowRequest}
    (plain : ∀ request ∈ requests, request.isCancel = false)
    (line : history.filter (!·.isCancel) ++ requests <+: setup.script order)
    (cancels : history.filter (·.isCancel) =
      cancel.toList.map fun request => setup.trading (.cancelOrder request))
    (names : ∀ request, cancel = some request → CancelsPlaced setup order history request)
    (shorter : part <+: requests) : Follows setup order cancel (history ++ part) := by
  rcases filter_append_plain history
    (fun request member => plain request (shorter.subset member)) with ⟨kept, same⟩
  refine ⟨?_, same.trans cancels, fun request sent => (names request sent).append part⟩
  rw [kept]
  exact ((List.prefix_append_right_inj _).mpr shorter).trans line

theorem plain_queries (setup : FlowSetup) (accountId : AccountId) :
    ∀ request ∈ setup.queries accountId, request.isCancel = false := by
  simp [FlowSetup.queries, FlowSetup.trading, FlowRequest.isCancel]

theorem plain_farewell (setup : FlowSetup) (accountId : AccountId)
    (instruments : List InstrumentId) :
    ∀ request ∈ setup.farewell accountId instruments, request.isCancel = false := by
  simp [FlowSetup.farewell, FlowSetup.trading, FlowSetup.marketData, FlowRequest.isCancel]

/-! ## The top of the loop -/

variable (world : FlowWorld)

theorem sends_queries (setup : FlowSetup) (accountId : AccountId) :
    Sends setup.clientId
      (fun flow => (((callTrading world (.queryAccount accountId) flow).andThen
        (callTrading world (.queryPosition accountId none))).andThen
        (callTrading world (.queryOrders accountId))).andThen
        (callTrading world (.queryTrades accountId)))
      (setup.queries accountId) :=
  (((sends_callTrading _ world _).andThen (sends_callTrading _ world _)).andThen
    (sends_callTrading _ world _)).andThen (sends_callTrading _ world _)

theorem sends_farewell (setup : FlowSetup) (accountId : AccountId)
    (instruments : List InstrumentId) :
    Sends setup.clientId
      (fun flow => (callMarketData world (.unsubscribe instruments) flow).andThen
        (callTrading world (.logoutAccount accountId)))
      (setup.farewell accountId instruments) :=
  (sends_callMarketData _ world _).andThen (sends_callTrading _ world _)

/-- The queries go out once the account is logged in. -/
theorem Looping.sendQueries
    (looping : Looping setup credentials instruments order cancel flow history) :
    (flow.sendQueries world credentials.accountId).Meets
      (fun after sent => Looping setup credentials instruments order cancel after sent ∧
        (after.tradeLoggedIn = true → after.queriesSent = true))
      (fun _ sent => Follows setup order cancel sent) history := by
  rw [Flow.sendQueries]
  split
  next fires =>
    simp only [Bool.and_eq_true, Bool.not_eq_eq_eq_not, Bool.not_true] at fires
    have noOrder : order = none := by
      cases order with
      | none => rfl
      | some placed =>
          have queried := looping.queried looping.sent
          rw [fires.2] at queried
          cases queried
    subst noOrder
    have line := looping.line
    rw [fires.2, looping.logoutSent_of_none] at line
    apply (sends_queries world setup credentials.accountId).run looping.named
    · intro trading marketData named
      rcases filter_append_plain history (plain_queries setup credentials.accountId) with
        ⟨kept, cancels⟩
      apply Attempt.meets_done
      refine ⟨{ looping with
        named := named
        line := ?_
        cancels := cancels.trans looping.cancels
        names := fun request sent => (looping.names request sent).append _
        queried := fun _ => rfl }, fun _ => rfl⟩
      rw [kept, line, looping.logoutSent_of_none]
      simp
    · intro after part shorter
      refine follows_append history (plain_queries _ _) ?_ looping.cancels looping.names shorter
      rw [line, script_of_entered looping.entered]
      simp [FlowSetup.loopScript]
  next rests =>
    apply Attempt.meets_done
    refine ⟨looping, ?_⟩
    intro loggedIn
    simpa [loggedIn] using rests

/-- The order is placed after the queries, where none was placed before. -/
theorem Looping.sendTestOrder
    (looping : Looping setup credentials instruments order cancel flow history)
    (queried : flow.tradeLoggedIn = true → flow.queriesSent = true) :
    (flow.sendTestOrder setup world credentials.accountId).Meets
      (fun after sent => ∃ order', Looping setup credentials instruments order' cancel after sent)
      (fun _ sent => ∃ order', Follows setup order' cancel sent) history := by
  rw [Flow.sendTestOrder]
  split
  next fires =>
    simp only [readyToOrder, Bool.and_eq_true, Bool.not_eq_eq_eq_not, Bool.not_true] at fires
    have noOrder : order = none := by
      have sent := looping.sent
      rw [fires.2] at sent
      exact Option.isSome_eq_false_iff.mp sent.symm |> Option.isNone_iff_eq_none.mp
    subst noOrder
    have noCancel : cancel = none := by
      cases cancel with
      | none => rfl
      | some request =>
          rcases looping.names request rfl with ⟨placed, before, after, absent, -⟩
          cases absent
    subst noCancel
    split
    · exact Attempt.meets_fail ⟨none, looping.follows⟩
    next placed built =>
      have plain : ∀ request ∈ [setup.trading (.placeOrder placed)],
          request.isCancel = false := by
        simp [FlowSetup.trading, FlowRequest.isCancel]
      have line := looping.line
      rw [queried fires.1.1.1.1.1.1, looping.logoutSent_of_none] at line
      apply (sends_callTrading setup.clientId world (.placeOrder placed)).run
      · exact looping.named
      · intro trading marketData named
        rcases filter_append_plain history plain with ⟨kept, cancels⟩
        apply Attempt.meets_done
        refine ⟨some placed, { looping with
          named := named
          line := ?_
          cancels := cancels.trans looping.cancels
          names := fun request absent => by cases absent
          placed := rfl
          sent := rfl
          queried := fun _ => queried fires.1.1.1.1.1.1
          finished := fun _ => rfl }⟩
        refine kept.trans ?_
        rw [line]
        simp [queried fires.1.1.1.1.1.1, looping.logoutSent_of_none]
      · intro after part shorter
        refine ⟨some placed, follows_append history plain ?_ looping.cancels ?_ shorter⟩
        · rw [line, script_of_entered looping.entered]
          simp [FlowSetup.loopScript]
        · intro request absent
          cases absent
  next => exact Attempt.meets_done ⟨order, looping⟩

theorem Looping.startHold
    (looping : Looping setup credentials instruments order cancel flow history) :
    Looping setup credentials instruments order cancel flow.startHold history := by
  rw [Flow.startHold]
  split
  next fires =>
    simp only [Bool.and_eq_true] at fires
    exact { looping with held := fun _ => fires.1.1 }
  next => exact looping

/-- The session is left after an order that was placed, and a logout. -/
theorem Looping.sendFarewell
    (looping : Looping setup credentials instruments order cancel flow history) :
    (flow.sendFarewell world credentials.accountId instruments).Meets
      (fun after sent => Looping setup credentials instruments order cancel after sent)
      (fun _ sent => Follows setup order cancel sent) history := by
  rw [Flow.sendFarewell]
  split
  next fires =>
    simp only [Bool.and_eq_true, Bool.not_eq_eq_eq_not, Bool.not_true] at fires
    have ordered := looping.finished (looping.held (Or.inr fires.1))
    rcases Option.isSome_iff_exists.mp (looping.sent.symm.trans ordered) with ⟨placed, rfl⟩
    have line := looping.line
    rw [looping.queried ordered, fires.2] at line
    apply (sends_farewell world setup credentials.accountId instruments).run looping.named
    · intro trading marketData named
      rcases filter_append_plain history
        (plain_farewell setup credentials.accountId instruments) with ⟨kept, cancels⟩
      apply Attempt.meets_done
      refine { looping with
        named := named
        line := ?_
        cancels := cancels.trans looping.cancels
        names := fun request sent => (looping.names request sent).append _
        left := fun _ => fires.1 }
      refine kept.trans ?_
      rw [line]
      simp [looping.queried ordered]
    · intro after part shorter
      refine follows_append history (plain_farewell _ _ _) ?_ looping.cancels looping.names shorter
      rw [line, script_of_entered looping.entered]
      simp [FlowSetup.loopScript]
  next => exact Attempt.meets_done looping

end Looping

/-- The requests so far follow the script. -/
def FollowsSome (setup : FlowSetup) (history : List FlowRequest) : Prop :=
  ∃ order cancel, Follows setup order cancel history

/-- A session that has not entered its loop has set none of its variables. -/
def Fresh (setup : FlowSetup) (flow : Flow) : Prop :=
  flow.Named setup.clientId ∧ ∃ trading marketData stage,
    flow = { trading := trading, marketData := marketData, stage := stage }

/-- What holds after every input: the requests so far follow the script, and a session that
ended without an error has sent all of it. -/
def Scripted (setup : FlowSetup) (flow : Flow) (history : List FlowRequest) : Prop :=
  match flow.stage with
  | .starting => flow.Fresh setup ∧ history = []
  | .awaitingTrading | .awaitingMarketData => flow.Fresh setup ∧ history = setup.greetings
  | .running credentials instruments =>
      ∃ order cancel, Looping setup credentials instruments order cancel flow history
  | .ended result => ∃ order cancel, Follows setup order cancel history ∧
      (result = .ok () → (∃ placed, order = some placed ∧
          setup.trading (.placeOrder placed) ∈ history) ∧
        history.filter (!·.isCancel) = setup.script order)

section Scripted

variable {setup : FlowSetup} {credentials : AccountCredentials}
variable {instruments : List InstrumentId} {order : Option OrderRequest}
variable {cancel : Option CancelRequest} {flow : Flow} {history : List FlowRequest}

theorem Looping.leave
    (looping : Looping setup credentials instruments order cancel flow history) :
    Scripted setup flow.leave history := by
  rw [Flow.leave]
  split
  next leaves =>
    simp only [Bool.and_eq_true] at leaves
    have ordered := looping.finished (looping.held (Or.inr (looping.left leaves.1)))
    rcases Option.isSome_iff_exists.mp (looping.sent.symm.trans ordered) with ⟨placed, rfl⟩
    refine ⟨some placed, cancel, looping.follows, fun _ =>
      ⟨⟨placed, rfl, looping.mem_of_placed rfl⟩, ?_⟩⟩
    rw [looping.line, script_of_entered looping.entered, looping.queried ordered, leaves.1]
    simp [FlowSetup.loopScript]
  next =>
    rw [Scripted, looping.stage]
    exact ⟨order, cancel, looping⟩

/-- The top of the loop keeps the requests on the script. -/
theorem Looping.head (world : FlowWorld)
    (looping : Looping setup credentials instruments order cancel flow history) :
    (flow.head setup world credentials.accountId instruments).Meets (Scripted setup)
      (fun _ sent => FollowsSome setup sent) history := by
  have queries : (flow.sendQueries world credentials.accountId).Meets
      (fun after sent => Looping setup credentials instruments order cancel after sent ∧
        (after.tradeLoggedIn = true → after.queriesSent = true))
      (fun _ sent => FollowsSome setup sent) history :=
    (looping.sendQueries world).mono (fun _ _ reached => reached)
      fun _ _ follows => ⟨order, cancel, follows⟩
  have ordered : ((flow.sendQueries world credentials.accountId).andThen
      (Flow.sendTestOrder setup world credentials.accountId)).Meets
      (fun after sent => ∃ order', Looping setup credentials instruments order' cancel after sent)
      (fun _ sent => FollowsSome setup sent) history := by
    apply queries.andThen
    rintro after outputs ⟨looping, queried⟩
    apply (looping.sendTestOrder world queried).mono (fun _ _ reached => reached)
    rintro last rest ⟨placed, follows⟩
    exact ⟨placed, cancel, follows⟩
  have farewell : (((flow.sendQueries world credentials.accountId).andThen
      (Flow.sendTestOrder setup world credentials.accountId)).andThen
        fun flow => Flow.sendFarewell world credentials.accountId instruments
          flow.startHold).Meets
      (fun after sent => ∃ order', Looping setup credentials instruments order' cancel after sent)
      (fun _ sent => FollowsSome setup sent) history := by
    apply ordered.andThen
    rintro after outputs ⟨placed, looping⟩
    exact (looping.startHold.sendFarewell world).mono (fun _ _ reached => ⟨placed, reached⟩)
      fun _ _ follows => ⟨placed, cancel, follows⟩
  apply farewell.andThen
  rintro after outputs ⟨placed, looping⟩
  exact Attempt.meets_done looping.leave

/-! ## The arms -/

/-- A cancel of the test order, where there was none, is the cancel of the session. -/
theorem filter_append_cancel (setup : FlowSetup) (history : List FlowRequest)
    (request : CancelRequest) :
    (history ++ [setup.trading (.cancelOrder request)]).filter (!·.isCancel) =
        history.filter (!·.isCancel) ∧
      (history ++ [setup.trading (.cancelOrder request)]).filter (·.isCancel) =
        history.filter (·.isCancel) ++ [setup.trading (.cancelOrder request)] := by
  simp [FlowSetup.trading, FlowRequest.isCancel]

theorem Looping.sendCancel (world : FlowWorld) {update : Order}
    (looping : Looping setup credentials instruments order none flow history)
    (own : flow.testOrderId = some update.clientOrderId) :
    ((flow.callTrading world (.cancelOrder (cancelOf update))).andThen
      fun flow => .done { flow with cancelSent := true }).Meets
      (fun after sent => Looping setup credentials instruments order
        (some (cancelOf update)) after sent ∧ after.testOrderId = some update.clientOrderId)
      (fun _ sent => FollowsSome setup sent) history := by
  have names : ∀ request, some (cancelOf update) = some request →
      CancelsPlaced setup order
        (history ++ [setup.trading (.cancelOrder (cancelOf update))]) request := by
    rintro request ⟨⟩
    rw [looping.placed] at own
    rcases Option.map_eq_some_iff.mp own with ⟨placed, ordered, same⟩
    exact ⟨placed, history, [], ordered, congrArg some same.symm, rfl,
      looping.mem_of_placed ordered⟩
  rcases filter_append_cancel setup history (cancelOf update) with ⟨kept, cancels⟩
  have cancelled : (history ++ [setup.trading (.cancelOrder (cancelOf update))]).filter
      (·.isCancel) =
        (some (cancelOf update)).toList.map fun request => setup.trading (.cancelOrder request) := by
    rw [cancels, looping.cancels]
    rfl
  apply (sends_callTrading setup.clientId world (.cancelOrder (cancelOf update))).run
    looping.named
  · intro trading marketData named
    apply Attempt.meets_done
    exact ⟨{ looping with
      named := named
      line := kept.trans looping.line
      cancels := cancelled
      names := names
      uncancelled := fun absent => by cases absent }, own⟩
  · intro after part shorter
    rcases part with _ | ⟨first, rest⟩
    · rw [List.append_nil]
      exact ⟨order, none, looping.follows⟩
    · have whole : first :: rest = [setup.trading (.cancelOrder (cancelOf update))] :=
        shorter.eq_of_length_le (by simp)
      rw [whole]
      exact ⟨order, some (cancelOf update), by rw [kept]; exact looping.follows.line,
        cancelled, names⟩

theorem Looping.finish {update : Order}
    (looping : Looping setup credentials instruments order cancel flow history)
    (own : flow.testOrderId = some update.clientOrderId) :
    Looping setup credentials instruments order cancel
      (if isTerminalStatus update.status then { flow with orderFinished := true } else flow)
      history := by
  split
  · have ordered : order.isSome := by
      rw [looping.placed] at own
      rcases Option.map_eq_some_iff.mp own with ⟨placed, ordered, -⟩
      rw [ordered]
      rfl
    exact { looping with
      finished := fun _ => looping.sent.trans ordered
      held := fun _ => rfl }
  · exact looping

/-- An update of the test order cancels it at most once. -/
theorem Looping.onOrderUpdate (world : FlowWorld) (update : Order)
    (looping : Looping setup credentials instruments order cancel flow history) :
    (flow.onOrderUpdate world update).Meets
      (fun after sent => ∃ cancel',
        Looping setup credentials instruments order cancel' after sent)
      (fun _ sent => FollowsSome setup sent) history := by
  rw [Flow.onOrderUpdate]
  split
  next own =>
    have cancelling : Attempt.Meets
        (if !flow.cancelSent && isCancelableStatus update.status then
          (flow.callTrading world (.cancelOrder (cancelOf update))).andThen
            fun flow => .done { flow with cancelSent := true }
        else .done flow)
        (fun after sent => ∃ cancel',
          Looping setup credentials instruments order cancel' after sent ∧
            after.testOrderId = some update.clientOrderId)
        (fun _ sent => FollowsSome setup sent) history := by
      split
      next fires =>
        simp only [Bool.and_eq_true, Bool.not_eq_eq_eq_not, Bool.not_true] at fires
        have none := looping.uncancelled fires.1
        subst none
        exact (looping.sendCancel world own).mono (fun _ _ reached => ⟨_, reached⟩)
          fun _ _ follows => follows
      next => exact Attempt.meets_done ⟨cancel, looping, own⟩
    apply cancelling.andThen
    rintro after outputs ⟨cancel', looping, own⟩
    exact Attempt.meets_done ⟨cancel', looping.finish own⟩
  next => exact Attempt.meets_done ⟨cancel, looping⟩

/-- Every arm keeps the requests on the script. -/
theorem Looping.arm (world : FlowWorld) (input : FlowInput)
    (looping : Looping setup credentials instruments order cancel flow history)
    (awaited : flow.awaits input = true) :
    (flow.arm world input).Meets
      (fun after sent => ∃ cancel',
        Looping setup credentials instruments order cancel' after sent)
      (fun _ sent => FollowsSome setup sent) history := by
  have broken : FollowsSome setup history := ⟨order, cancel, looping.follows⟩
  cases input with
  | start => cases awaited
  | deadline => exact Attempt.meets_fail broken
  | holdElapsed =>
      have finished := looping.held (Or.inl awaited)
      exact Attempt.meets_done ⟨cancel, { looping with
        held := fun _ => finished
        left := fun _ => rfl }⟩
  | marketData envelope =>
      simp only [Flow.arm, Flow.onMarketData]
      split
      · exact Attempt.meets_fail broken
      · exact Attempt.meets_done ⟨cancel, { looping with }⟩
      · exact Attempt.meets_fail broken
      · exact Attempt.meets_done ⟨cancel, looping⟩
  | trading envelope =>
      simp only [Flow.arm, Flow.onTrading]
      split
      · exact Attempt.meets_fail broken
      · exact Attempt.meets_done ⟨cancel, { looping with }⟩
      · exact looping.onOrderUpdate world _
      · exact Attempt.meets_done ⟨cancel, { looping with }⟩
      · exact Attempt.meets_done ⟨cancel, { looping with }⟩
      · exact Attempt.meets_done ⟨cancel, { looping with }⟩
      · exact Attempt.meets_done ⟨cancel, { looping with }⟩
      · exact Attempt.meets_fail broken
      · exact Attempt.meets_done ⟨cancel, looping⟩

/-! ## The entrance -/

theorem Fresh.of_stage (fresh : flow.Fresh setup) (stage : FlowStage) :
    Fresh setup { flow with stage := stage } := by
  rcases fresh with ⟨named, trading, marketData, before, rfl⟩
  exact ⟨named, trading, marketData, stage, rfl⟩

theorem plain_greetings (setup : FlowSetup) :
    ∀ request ∈ setup.greetings, request.isCancel = false := by
  simp [FlowSetup.greetings, FlowSetup.trading, FlowSetup.marketData, FlowRequest.isCancel]

/-- Before an order, whatever is no cancel and part of the script follows it. -/
theorem followsSome_of_prefix {history requests part : List FlowRequest}
    (sent : ∀ request ∈ history, request.isCancel = false)
    (plain : ∀ request ∈ requests, request.isCancel = false)
    (line : history ++ requests <+: setup.script none) (shorter : part <+: requests) :
    FollowsSome setup (history ++ part) := by
  rcases filter_append_plain [] sent with ⟨kept, cancels⟩
  refine ⟨none, none, follows_append history plain ?_ cancels ?_ shorter⟩
  · rwa [show history.filter (!·.isCancel) = history from kept]
  · intro request absent
    cases absent

theorem followsSome_of_line {history : List FlowRequest}
    (sent : ∀ request ∈ history, request.isCancel = false)
    (line : history <+: setup.script none) : FollowsSome setup history := by
  have nothing : ∀ request ∈ ([] : List FlowRequest), request.isCancel = false := by simp
  rw [← List.append_nil history] at line ⊢
  exact followsSome_of_prefix sent nothing line List.nil_prefix

theorem connectBoth_meets (world : FlowWorld) (fresh : flow.Fresh setup) :
    (flow.connectBoth world).Meets (Scripted setup) (fun _ sent => FollowsSome setup sent)
      [] := by
  have block : Sends setup.clientId
      (fun flow => (callTrading world .connect flow).andThen (callMarketData world .connect))
      setup.greetings :=
    (sends_callTrading _ world _).andThen (sends_callMarketData _ world _)
  apply block.run fresh.1
  · intro trading marketData named
    rcases fresh with ⟨-, before, beside, stage, rfl⟩
    apply Attempt.meets_done
    exact ⟨⟨named, trading, marketData, .awaitingTrading, rfl⟩, rfl⟩
  · intro after part shorter
    refine followsSome_of_prefix (by simp) (plain_greetings setup) ?_ shorter
    exact List.prefix_append setup.greetings _

/-- Logging in and subscribing keep the requests on the script. -/
theorem enter_meets (world : FlowWorld) (fresh : flow.Fresh setup) :
    (flow.enter setup world).Meets (Scripted setup) (fun _ sent => FollowsSome setup sent)
      setup.greetings := by
  have greeted := plain_greetings setup
  rw [Flow.enter]
  split
  next message failed =>
    apply Attempt.meets_fail
    exact followsSome_of_line greeted (List.prefix_append setup.greetings _)
  next credentials loaded =>
    have plain : ∀ request ∈ [setup.trading (.accountLogin credentials)],
        request.isCancel = false := by
      simp [FlowSetup.trading, FlowRequest.isCancel]
    have loggingIn : ∀ request ∈ setup.greetings ++ [setup.trading (.accountLogin credentials)],
        request.isCancel = false := by
      intro request member
      rcases List.mem_append.mp member with earlier | now
      · exact greeted request earlier
      · exact plain request now
    have line : setup.greetings ++ [setup.trading (.accountLogin credentials)] <+:
        setup.script none := by
      simp [FlowSetup.script, loaded]
    apply (sends_callTrading setup.clientId world (.loginAccount credentials)).run fresh.1
    · intro trading marketData named
      split
      next message absent =>
        apply Attempt.meets_fail
        exact followsSome_of_line loggingIn line
      next value given =>
        have subscribing : Attempt.Meets
            ((callMarketData world (.subscribe (parseInstruments value))
              { flow with trading := trading, marketData := marketData }).andThen
              fun flow => .done { flow with
                stage := .running credentials (parseInstruments value) })
            (fun after sent => Looping setup credentials (parseInstruments value) none none
              after sent)
            (fun _ sent => FollowsSome setup sent)
            (setup.greetings ++ [setup.trading (.accountLogin credentials)]) := by
          apply (sends_callMarketData setup.clientId world
            (.subscribe (parseInstruments value))).run named
          · intro trading marketData named
            rcases fresh with ⟨-, before, beside, stage, rfl⟩
            apply Attempt.meets_done
            have subscribed : ∀ request ∈ setup.greetings ++
                [setup.trading (.accountLogin credentials)] ++
                [setup.marketData (.subscribeMarketData (parseInstruments value))],
                request.isCancel = false := by
              intro request member
              rcases List.mem_append.mp member with earlier | now
              · exact loggingIn request earlier
              · rw [List.mem_singleton.mp now]
                rfl
            rcases filter_append_plain [] subscribed with ⟨kept, cancels⟩
            constructor
            case named => exact named
            case stage => rfl
            case entered => exact ⟨loaded, value, given, rfl⟩
            case line => exact kept.trans (by simp)
            case cancels => exact cancels
            case held => rintro (absent | absent) <;> cases absent
            all_goals first | rfl | (intros; first | rfl | contradiction)
          · intro after part shorter
            refine followsSome_of_prefix loggingIn ?_ ?_ shorter
            · simp [ClientCall.message, FlowRequest.isCancel]
            · simp [FlowSetup.script, loaded, given, FlowSetup.marketData, ClientCall.message]
        apply subscribing.andThen
        intro after outputs looping
        exact looping.head world
    · intro after part shorter
      exact followsSome_of_prefix greeted plain line shorter

/-- Every input keeps the requests on the script. -/
theorem scripted_next (setup : FlowSetup) (flow : Flow) (history : List FlowRequest)
    (input : FlowWorld × FlowInput) (scripted : flow.Scripted setup history) :
    ((machine setup).next flow input).Scripted setup
      (history ++ (machine setup).emits flow input) := by
  have concluded (attempt : FlowAttempt)
      (meets : attempt.Meets (Scripted setup) (fun _ sent => FollowsSome setup sent) history) :
      (conclude attempt).Scripted setup (history ++ attempt.outputs) := by
    cases ended : attempt.result with
    | ok =>
        rw [Attempt.Meets, ended] at meets
        rwa [conclude, ended]
    | error error =>
        rw [Attempt.Meets, ended] at meets
        rcases meets with ⟨order, cancel, follows⟩
        rw [conclude, ended]
        refine ⟨order, cancel, follows, ?_⟩
        intro absent
        cases absent
  apply concluded
  simp only [Flow.advance]
  split
  next starting _ =>
    rw [Scripted, starting] at scripted
    rw [scripted.2]
    exact connectBoth_meets input.1 scripted.1
  next waiting _ =>
    rw [Scripted, waiting] at scripted
    exact Attempt.meets_done ⟨scripted.1.of_stage _, scripted.2⟩
  next waiting _ =>
    rw [Scripted, waiting] at scripted
    rw [scripted.2]
    exact enter_meets input.1 scripted.1
  next credentials instruments running =>
    split
    next awaited =>
      rw [Scripted, running] at scripted
      rcases scripted with ⟨order, cancel, looping⟩
      apply (looping.arm input.1 input.2 awaited).andThen
      rintro after outputs ⟨cancel', looping⟩
      exact looping.head input.1
    next => exact Attempt.meets_done scripted
  next => exact Attempt.meets_done scripted

end Scripted

/-- A session on its script follows it. -/
theorem followsSome_of_scripted {setup : FlowSetup} {flow : Flow} {history : List FlowRequest}
    (scripted : flow.Scripted setup history) : FollowsSome setup history := by
  have greeted (sent : history = setup.greetings) : FollowsSome setup history := by
    rw [sent]
    exact followsSome_of_line (plain_greetings setup) (List.prefix_append setup.greetings _)
  rw [Scripted] at scripted
  split at scripted
  next starting =>
    rw [scripted.2]
    exact followsSome_of_line (by simp) List.nil_prefix
  next waiting => exact greeted scripted.2
  next waiting => exact greeted scripted.2
  next credentials instruments running =>
    rcases scripted with ⟨order, cancel, looping⟩
    exact ⟨order, cancel, looping.follows⟩
  next result ended =>
    rcases scripted with ⟨order, cancel, follows, whole⟩
    exact ⟨order, cancel, follows⟩

/-- Whatever a terminal receives, in any order, and however its calls end: apart from one
cancel at most, which comes after the order that was placed and names its id, its requests
are a first part of the script of its environment, with that order; and a session that ended
without an error placed an order and sent the whole script. -/
theorem session_follows_script (setup : FlowSetup) (inputs : List (FlowWorld × FlowInput)) :
    let history := (machine setup).outputs (machine setup).init inputs
    ∃ order cancel, Follows setup order cancel history ∧
      (((machine setup).runFrom (machine setup).init inputs).stage = .ended (.ok ()) →
        (∃ placed, order = some placed ∧ setup.trading (.placeOrder placed) ∈ history) ∧
          history.filter (!·.isCancel) = setup.script order) := by
  intro history
  have start : ((machine setup).init).Scripted setup [] :=
    ⟨⟨⟨rfl, rfl⟩, _, _, _, rfl⟩, rfl⟩
  have scripted := (machine setup).invariant_outputs (scripted_next setup) start inputs
  rw [List.nil_append] at scripted
  by_cases complete : ((machine setup).runFrom (machine setup).init inputs).stage = .ended (.ok ())
  · rw [Scripted, complete] at scripted
    rcases scripted with ⟨order, cancel, follows, whole⟩
    exact ⟨order, cancel, follows, fun _ => whole rfl⟩
  · rcases followsSome_of_scripted scripted with ⟨order, cancel, follows⟩
    exact ⟨order, cancel, follows, fun ended => absurd ended complete⟩

end Flow

end CtpSystem
