import CtpSystem.Trade.Delivery

/-!
# The order a cancel waits for

A cancel is sent under the normalized client order id and reports carry that order ref, but
the loop that waits for the order's last report compares it with the client order id as the
request has it.
-/

namespace CtpSystem

open Reactive

/-- The request, made for an order by its client order id. -/
def CancelRequest.naming (cancel : CancelRequest) (clientOrderId : ClientOrderId) :
    CancelRequest :=
  { cancel with clientOrderId := some clientOrderId }

/-- The report is about the order placed under a client order id: its order ref is the one
`insert_order` sent. -/
def OrderReport.isOf (report : OrderReport) (clientOrderId : ClientOrderId) : Bool :=
  report.clientOrderId.asStr = normalizeOrderRef clientOrderId.asStr

/-- The report carries the exchange order id of the request. -/
def CancelRequest.sharesExchangeId (cancel : CancelRequest) (report : OrderReport) : Bool :=
  cancel.exchangeOrderId.isSome && cancel.exchangeOrderId = report.exchangeOrderId

/-- A command handler after its first part, over the events it consumes until it returns. -/
def TradeActor.resume (accountId : AccountId) (started : Handling)
    (inputs : List (World × TradeSessionEvent)) : Handling :=
  match started.result with
  | some _ => started
  | none =>
      let rest := (TradeActor.driverLoop accountId).feed started.state inputs
      { rest with outputs := started.outputs ++ rest.outputs }

/-- What the events so far show of `drive_cancel_order`. -/
structure RecognisesOrder (run : List (World × TradeSessionEvent) → Handling)
    (orderRegistry : OrderRegistry) (clientOrderId : ClientOrderId)
    (inputs : List (World × TradeSessionEvent)) : Prop where
  /-- It returns at or before the last report of the order, and every report it consumed
  until then is forwarded. -/
  returns : ∀ before world report, before ++ [(world, .orderReturn report)] <+: inputs →
    report.isOf clientOrderId = true → report.status.isTerminal = true →
      ∃ consumed, consumed <+: before ++ [(world, .orderReturn report)] ∧
        (run consumed).result.isSome ∧
        pushesOf (run consumed).outputs =
          consumed.flatMap fun input => reportPushes input.1 orderRegistry input.2
  /-- An order report at which it returns is one of the order. -/
  others : ∀ before world report, before ++ [(world, .orderReturn report)] <+: inputs →
    (run before).result = none →
      (run (before ++ [(world, .orderReturn report)])).result.isSome →
        report.isOf clientOrderId = true

/-- What a report has in common with the request tells whether it is about the order. -/
def ToldApart (cancel : CancelRequest) (clientOrderId : ClientOrderId)
    (report : OrderReport) : Prop :=
  if report.isOf clientOrderId then
    normalizeOrderRef clientOrderId.asStr = clientOrderId.asStr ∨
      cancel.sharesExchangeId report = true
  else report.clientOrderId ≠ clientOrderId ∧ cancel.sharesExchangeId report = false

/-- Every last report of an order that finds the cancel still waiting is told apart. -/
def LastReportsToldApart (cancel : CancelRequest) (clientOrderId : ClientOrderId)
    (rid : Int32) (replyTo : EnvelopeTx) (inputs : List (World × TradeSessionEvent)) : Prop :=
  ∀ before world report, before ++ [(world, .orderReturn report)] <+: inputs →
    (∀ earlier ∈ before,
      (Driver.cancelOrder (cancel.naming clientOrderId) rid replyTo).returnsOn earlier.2 =
        false) →
      report.status.isTerminal = true → ToldApart cancel clientOrderId report

/-! ## Matching -/

/-- A report told apart is taken for the target exactly if it is about the order. -/
theorem toldApart_iff (cancel : CancelRequest) (clientOrderId : ClientOrderId)
    (report : OrderReport) :
    ToldApart cancel clientOrderId report ↔
      (report.isOf clientOrderId = true ↔
        (cancel.naming clientOrderId).isTarget report = true) := by
  have target : (cancel.naming clientOrderId).isTarget report = true ↔
      clientOrderId = report.clientOrderId ∨ cancel.sharesExchangeId report = true := by
    simp only [CancelRequest.isTarget, CancelRequest.naming, Bool.or_eq_true,
      decide_eq_true_eq, Option.some.injEq]
    exact Iff.rfl
  rw [target, ToldApart]
  cases own : report.isOf clientOrderId with
  | true =>
      have orderRef : report.clientOrderId.asStr = normalizeOrderRef clientOrderId.asStr :=
        of_decide_eq_true own
      have same : clientOrderId = report.clientOrderId ↔
          normalizeOrderRef clientOrderId.asStr = clientOrderId.asStr := by
        rw [← orderRef]
        constructor
        · intro equal
          rw [equal]
        · intro equal
          cases clientOrderId
          exact congrArg ClientOrderId.mk equal.symm
      simp [same]
  | false =>
      rw [if_neg Bool.false_ne_true, ne_comm]
      simp

/-! ## The loop -/

section Loop

variable (accountId : AccountId) {actor : TradeActor} {driver : Driver}

/-- A request driver forwards every report up to the event at which it returns. -/
theorem pushesOf_feed (waits : actor.WaitsIn driver) (request : driver.isRequest = true)
    {before : List (World × TradeSessionEvent)}
    (pending : ∀ earlier ∈ before, driver.returnsOn earlier.2 = false)
    (last : World × TradeSessionEvent) :
    pushesOf ((TradeActor.driverLoop accountId).feed actor (before ++ [last])).outputs =
      (before ++ [last]).flatMap fun input =>
        reportPushes input.1 actor.orderRegistry input.2 := by
  induction before generalizing actor with
  | nil =>
      have passed := pass_eq accountId waits request last
      have pushed : pushesOf ((TradeActor.driverLoop accountId).pass actor last).outputs =
          reportPushes last.1 actor.orderRegistry last.2 := by
        simp [passed]
      cases outcome : ((TradeActor.driverLoop accountId).pass actor last).result with
      | some result =>
          rw [List.nil_append, ReceiveLoop.feed_cons_of_returned (by rw [outcome]; rfl), pushed]
          simp
      | none =>
          rw [List.nil_append, ReceiveLoop.feed_cons_of_waiting outcome]
          simp [ReceiveLoop.feed, pushed]
  | cons input before ih =>
      have waiting := pending input List.mem_cons_self
      have passed := pass_eq accountId waits request input
      simp only [waiting, Bool.false_eq_true, if_false] at passed
      have outcome : ((TradeActor.driverLoop accountId).pass actor input).result = none := by
        rw [passed]
      rw [List.cons_append, ReceiveLoop.feed_cons_of_waiting outcome, pushesOf_append, passed,
        List.flatMap_cons]
      have waits : TradeActor.WaitsIn { actor with driver := some driver } driver :=
        ⟨waits.1, rfl⟩
      have rest := ih waits fun earlier member =>
        pending earlier (List.mem_cons_of_mem input member)
      rw [rest, pushesOf_append, pushesOf_reportPushes, pushesOf_replies, List.append_nil]

end Loop

/-! ## Cancels -/

section Cancel

variable (accountId : AccountId) (actor : TradeActor) (session : TradeSession) (world : World)
variable (cancel : CancelRequest) (frontId sessionId : Int32) (replyTo : EnvelopeTx)

/-- `drive_cancel_order` over the events it consumes. -/
def driveCancelOver (inputs : List (World × TradeSessionEvent)) : Handling :=
  TradeActor.resume accountId
    (driveCancelOrder world actor session cancel frontId sessionId replyTo) inputs

variable {session world cancel frontId sessionId}

/-- A cancel command that is taken logged in is served by `drive_cancel_order`. -/
theorem serve_cancelOrder (loggedIn : actor.loggedInIds = some (frontId, sessionId))
    (connected : actor.session = some session) (inputs : List (World × TradeSessionEvent)) :
    actor.serve accountId world (.cancelOrder cancel replyTo) inputs =
      driveCancelOver accountId actor session world cancel frontId sessionId replyTo inputs := by
  have started : handleTradeCommand accountId world actor (.cancelOrder cancel replyTo) =
      driveCancelOrder world actor session cancel frontId sessionId replyTo := by
    simp only [handleTradeCommand, loggedIn, Option.isSome_some, if_true,
      handleLoggedInTradeCommand, withSession, connected]
  rw [TradeActor.serve, started]
  rfl

/-- A cancel whose order action is not accepted returns at once, with nothing forwarded. -/
theorem driveCancelOver_of_error {message : String}
    (failed : (session.cancelOrder world.rc cancel frontId sessionId).result = .error message)
    (inputs : List (World × TradeSessionEvent)) :
    (driveCancelOver accountId actor session world cancel frontId sessionId replyTo
        inputs).result.isSome ∧
      pushesOf (driveCancelOver accountId actor session world cancel frontId sessionId replyTo
        inputs).outputs = [] := by
  have started : driveCancelOrder world actor session cancel frontId sessionId replyTo =
      { actor with
        session := some (session.cancelOrder world.rc cancel frontId sessionId).session }.finish
        ([] ++ TradeActor.requested (session.cancelOrder world.rc cancel frontId sessionId))
        (.error message) :=
    TradeActor.submit_of_error failed _
  simp [driveCancelOver, TradeActor.resume, started]

/-- A cancel whose order action is accepted waits in its driver. -/
theorem driveCancelOver_of_ok {rid : Int32}
    (accepted : (session.cancelOrder world.rc cancel frontId sessionId).result = .ok rid) :
    ∃ waiting : TradeActor, waiting.WaitsIn (.cancelOrder cancel rid replyTo) ∧
      waiting.orderRegistry = actor.orderRegistry ∧
      ∀ inputs,
        (driveCancelOver accountId actor session world cancel frontId sessionId replyTo
            inputs).result =
          ((TradeActor.driverLoop accountId).feed waiting inputs).result ∧
        pushesOf (driveCancelOver accountId actor session world cancel frontId sessionId
            replyTo inputs).outputs =
          pushesOf ((TradeActor.driverLoop accountId).feed waiting inputs).outputs := by
  have started : driveCancelOrder world actor session cancel frontId sessionId replyTo =
      { actor with
        session := some (session.cancelOrder world.rc cancel frontId sessionId).session }.waitIn
        (.cancelOrder cancel rid replyTo)
        ([] ++ TradeActor.requested (session.cancelOrder world.rc cancel frontId sessionId)) :=
    TradeActor.submit_of_ok accepted _
  let waiting : TradeActor :=
    { actor with
      session := some (session.cancelOrder world.rc cancel frontId sessionId).session
      driver := some (.cancelOrder cancel rid replyTo) }
  refine ⟨waiting, ⟨rfl, rfl⟩, rfl, ?_⟩
  intro inputs
  simp only [driveCancelOver, TradeActor.resume, started, TradeActor.waitIn_result,
    TradeActor.waitIn_outputs, pushesOf_append, pushesOf_requested, List.nil_append]
  exact ⟨rfl, rfl⟩

end Cancel

/-! ## A run that waits -/

/-- What a run shows is what the loop of a request driver does. -/
structure RunsLoop (accountId : AccountId) (waiting : TradeActor) (driver : Driver)
    (run : List (World × TradeSessionEvent) → Handling) : Prop where
  waits : waiting.WaitsIn driver
  request : driver.isRequest = true
  result : ∀ inputs,
    (run inputs).result = ((TradeActor.driverLoop accountId).feed waiting inputs).result
  pushes : ∀ inputs, pushesOf (run inputs).outputs =
    pushesOf ((TradeActor.driverLoop accountId).feed waiting inputs).outputs

section Waiting

variable {accountId : AccountId} {waiting : TradeActor} {driver : Driver}
  {run : List (World × TradeSessionEvent) → Handling}

theorem RunsLoop.returned_iff (runs : RunsLoop accountId waiting driver run)
    (inputs : List (World × TradeSessionEvent)) :
    (run inputs).result.isSome ↔ ∃ input ∈ inputs, driver.returnsOn input.2 = true := by
  rw [runs.result]
  exact returnsWithin_iff_returnsOn accountId runs.waits runs.request inputs

theorem RunsLoop.pending_iff (runs : RunsLoop accountId waiting driver run)
    (inputs : List (World × TradeSessionEvent)) :
    (run inputs).result = none ↔ ∀ input ∈ inputs, driver.returnsOn input.2 = false := by
  rw [← Option.not_isSome_iff_eq_none, runs.returned_iff]
  simp

/-- If no earlier event ended the run, the last one did. -/
theorem RunsLoop.ends_at_last (runs : RunsLoop accountId waiting driver run)
    {before consumed : List (World × TradeSessionEvent)} {last : World × TradeSessionEvent}
    (early : ∀ earlier ∈ before, driver.returnsOn earlier.2 = false)
    (within : consumed <+: before ++ [last]) (returned : (run consumed).result.isSome) :
    driver.returnsOn last.2 = true := by
  rcases (runs.returned_iff consumed).mp returned with ⟨input, member, stops⟩
  rcases List.mem_append.mp (within.subset member) with earlier | here
  · rw [early input earlier] at stops
    cases stops
  · rwa [List.mem_singleton.mp here] at stops

/-- If some event ends the run, it returns with the first of them, every report until then
forwarded. -/
theorem RunsLoop.returns_at_first (runs : RunsLoop accountId waiting driver run)
    {inputs : List (World × TradeSessionEvent)}
    (stops : ∃ input ∈ inputs, driver.returnsOn input.2 = true) :
    ∃ consumed, consumed <+: inputs ∧ (run consumed).result.isSome ∧
      pushesOf (run consumed).outputs =
        consumed.flatMap fun input => reportPushes input.1 waiting.orderRegistry input.2 := by
  rcases Option.isSome_iff_exists.mp (List.find?_isSome.mpr stops) with ⟨last, found⟩
  rcases List.find?_eq_some_iff_append.mp found with ⟨ends, start, after, split, earlier⟩
  refine ⟨start ++ [last], ?_, ?_, ?_⟩
  · rw [split]
    exact ⟨after, by simp⟩
  · exact (runs.returned_iff _).mpr
      ⟨last, List.mem_append_right _ (List.mem_singleton_self _), ends⟩
  · rw [runs.pushes]
    apply pushesOf_feed accountId runs.waits runs.request
    intro other member
    simpa using earlier other member

/-- The loop of a cancel ends at an order report that is terminal and matches, and at no
other. -/
theorem returnsOn_orderReturn_iff (cancel : CancelRequest) (rid : Int32) (replyTo : EnvelopeTx)
    (report : OrderReport) :
    (Driver.cancelOrder cancel rid replyTo).returnsOn (.orderReturn report) = true ↔
      cancel.isTarget report = true ∧ report.status.isTerminal = true :=
  Bool.and_eq_true_iff

variable {cancel : CancelRequest} {clientOrderId : ClientOrderId} {rid : Int32}
  {replyTo : EnvelopeTx}

/-- Of a cancel that recognises its order, the last reports that reach it are told apart. -/
theorem toldApart_of_recognises
    (runs : RunsLoop accountId waiting (.cancelOrder (cancel.naming clientOrderId) rid replyTo)
      run)
    {inputs : List (World × TradeSessionEvent)}
    (recognises : RecognisesOrder run waiting.orderRegistry clientOrderId inputs) :
    LastReportsToldApart cancel clientOrderId rid replyTo inputs := by
  intro before world report within early terminal
  rw [toldApart_iff]
  constructor
  · intro own
    rcases recognises.returns before world report within own terminal with
      ⟨consumed, start, ended, -⟩
    have stops := runs.ends_at_last early start ended
    exact ((returnsOn_orderReturn_iff _ rid replyTo report).mp stops).1
  · intro target
    apply recognises.others before world report within ((runs.pending_iff before).mpr early)
    exact (runs.returned_iff _).mpr ⟨_, List.mem_append_right _ (List.mem_singleton_self _),
      (returnsOn_orderReturn_iff _ rid replyTo report).mpr ⟨target, terminal⟩⟩

/-- Where the last report of the order is told apart, some event up to it ends the loop. -/
theorem stops_of_toldApart {inputs before : List (World × TradeSessionEvent)} {world : World}
    {report : OrderReport} (apart : LastReportsToldApart cancel clientOrderId rid replyTo inputs)
    (within : before ++ [(world, .orderReturn report)] <+: inputs)
    (own : report.isOf clientOrderId = true) (terminal : report.status.isTerminal = true) :
    ∃ input ∈ before ++ [(world, .orderReturn report)],
      (Driver.cancelOrder (cancel.naming clientOrderId) rid replyTo).returnsOn input.2 =
        true := by
  by_contra silent
  have early : ∀ earlier ∈ before,
      (Driver.cancelOrder (cancel.naming clientOrderId) rid replyTo).returnsOn earlier.2 =
        false := by
    intro earlier member
    rw [← Bool.not_eq_true]
    intro stops
    exact silent ⟨earlier, List.mem_append_left _ member, stops⟩
  have target := ((toldApart_iff cancel clientOrderId report).mp
    (apart before world report within early terminal)).mp own
  exact silent ⟨_, List.mem_append_right _ (List.mem_singleton_self _),
    (returnsOn_orderReturn_iff _ rid replyTo report).mpr ⟨target, terminal⟩⟩

/-- A waiting cancel recognises its order exactly when the last reports that reach it are
told apart. -/
theorem recognisesOrder_iff_of_waiting
    (runs : RunsLoop accountId waiting (.cancelOrder (cancel.naming clientOrderId) rid replyTo)
      run)
    (inputs : List (World × TradeSessionEvent)) :
    RecognisesOrder run waiting.orderRegistry clientOrderId inputs ↔
      LastReportsToldApart cancel clientOrderId rid replyTo inputs := by
  constructor
  · exact toldApart_of_recognises runs
  · intro apart
    constructor
    · intro before world report within own terminal
      exact runs.returns_at_first (stops_of_toldApart apart within own terminal)
    · intro before world report within unreturned ended
      have early := (runs.pending_iff before).mp unreturned
      have stops := runs.ends_at_last early List.prefix_rfl ended
      rcases (returnsOn_orderReturn_iff _ rid replyTo report).mp stops with ⟨target, terminal⟩
      exact ((toldApart_iff cancel clientOrderId report).mp
        (apart before world report within early terminal)).mpr target

end Waiting

/-- `drive_cancel_order` for an order named by its client order id returns by the last report
of the order, everything before it forwarded, and not at the report of another order, exactly
when, its order action accepted, each last report that finds it waiting is told apart: one of
the order where the id is its own order ref or the report carries the request's exchange
order id, one of another order where it has neither the id as it stands nor that exchange
order id. -/
theorem cancel_recognises_iff (accountId : AccountId) (actor : TradeActor)
    (session : TradeSession) (world : World) (cancel : CancelRequest)
    (clientOrderId : ClientOrderId) (frontId sessionId : Int32) (replyTo : EnvelopeTx)
    (inputs : List (World × TradeSessionEvent)) :
    RecognisesOrder
        (driveCancelOver accountId actor session world (cancel.naming clientOrderId) frontId
          sessionId replyTo)
        actor.orderRegistry clientOrderId inputs ↔
      (session.api.isSome ∧ world.rc = 0 →
        LastReportsToldApart cancel clientOrderId (session.requestId + 1) replyTo inputs) := by
  cases outcome :
      (session.cancelOrder world.rc (cancel.naming clientOrderId) frontId sessionId).result with
  | error message =>
      have refused : ¬(session.api.isSome ∧ world.rc = 0) := by
        rw [← session.request_result]
        rintro ⟨rid, accepted⟩
        exact absurd (outcome.symm.trans accepted) (by simp)
      apply iff_of_true _ (fun sent => absurd sent refused)
      constructor
      · intro before world' report within own terminal
        have failed := driveCancelOver_of_error accountId actor replyTo outcome []
        exact ⟨[], List.nil_prefix, failed.1, failed.2⟩
      · intro before world' report within unreturned
        have failed := driveCancelOver_of_error accountId actor replyTo outcome before
        rw [unreturned] at failed
        cases failed.1
  | ok rid =>
      have accepted : session.api.isSome ∧ world.rc = 0 :=
        (session.request_result ..).mp ⟨rid, outcome⟩
      have numbered : rid = session.requestId + 1 := TradeSession.requestId_of_ok outcome
      rcases driveCancelOver_of_ok accountId actor replyTo outcome with
        ⟨waiting, waits, registry, same⟩
      have runs := RunsLoop.mk waits rfl (fun inputs => (same inputs).1)
        fun inputs => (same inputs).2
      have recognises := recognisesOrder_iff_of_waiting runs inputs
      rw [registry, numbered] at recognises
      rw [recognises]
      exact ⟨fun apart _ => apart, fun apart => apart accepted⟩

/-- An order with a hyphen in its client order id is filled while its cancel waits: the
report carries the order ref without the hyphen, and the loop goes on. -/
theorem hyphenated_unrecognised :
    ¬RecognisesOrder
      (driveCancelOver ⟨"1001"⟩ TradeActor.online ⟨⟨"1001", "9999", "", "", ""⟩, some {},
          some {}, 3⟩ (World.accepting {})
        (CancelRequest.naming ⟨⟨"1001"⟩, ⟨"au2612"⟩, none, none⟩ ⟨"ord-1"⟩) 1 7 ⟨0⟩)
      TradeActor.online.orderRegistry ⟨"ord-1"⟩
      [(World.accepting {}, .orderReturn
        ⟨⟨"ord1"⟩, none, ⟨"au2612"⟩, .buy, .open, ⟨0⟩, 1, 1, .filled, none, none⟩)] := by
  intro recognises
  rcases recognises.returns [] _ _ List.prefix_rfl (by decide) (by decide) with
    ⟨consumed, start, returned, -⟩
  rcases List.prefix_cons_iff.mp start with rfl | ⟨rest, rfl, short⟩
  · revert returned
    decide
  · rw [List.prefix_nil.mp short] at returned
    revert returned
    decide

end CtpSystem
