import CtpSystem.Library.Noninterference
import CtpSystem.Trade.Callbacks
import CtpSystem.Trade.Requests

/-!
# Queries are answered from their own rows

Rows of several queries are collected in one table by callbacks that come in any order.
To whoever watches one request id the callbacks of the others do not show, and the driver
that waits for the id skips every event of the others.
-/

namespace CtpSystem

open Reactive

/-! ## Request ids -/

/-- The pending request a callback is about. -/
def SpiCallback.requestId : SpiCallback → Option Int32
  | .onRspError _ requestId | .onRspOrderAction _ requestId
  | .onRspQryTradingAccount _ _ requestId _ | .onRspQryInvestorPosition _ _ requestId _
  | .onRspQryOrder _ _ requestId _ | .onRspQryTrade _ _ requestId _ => some requestId
  | .onFrontConnected | .onFrontDisconnected _ | .onHeartBeatWarning _
  | .onRspAuthenticate _ | .onRspUserLogin _ _ | .onRspSettlementInfoConfirm _
  | .onRspOrderInsert _ _ | .onErrRtnOrderInsert _ _ | .onRtnOrder _ | .onRtnTrade _ => none

/-- The request id an input is about. -/
def SpiInput.requestId : SpiInput → Option Int32
  | .registerQuery requestId _ => some requestId
  | .callback called => called.requestId

/-- The request id an event carries. -/
def TradeSessionEvent.requestId : TradeSessionEvent → Option Int32
  | .error _ _ requestId | .queryAccountReady requestId _ | .queryPositionsReady requestId _
  | .queryOrdersReady requestId _ | .queryTradesReady requestId _
  | .queryFailed requestId _ _ | .cancelActionOk requestId
  | .cancelActionFailed requestId _ _ => some requestId
  | .frontConnected | .frontDisconnected _ | .heartBeatWarning _ | .authenticateOk
  | .authenticateFailed _ _ | .loginOk _ _ _ | .loginFailed _ _ | .settlementConfirmed
  | .settlementConfirmFailed _ _ | .orderInsertRejected _ _ | .orderReturn _
  | .tradeReturn _ => none

/-- The inputs about a request. -/
def SpiInput.isAbout (requestId : Int32) (input : SpiInput) : Bool :=
  input.requestId = some requestId

/-- The events about a request. -/
def TradeSessionEvent.isAbout (requestId : Int32) (event : TradeSessionEvent) : Bool :=
  event.requestId = some requestId

namespace QueryKind

/-- The callback that reports a row. -/
def callback : (kind : QueryKind) → Option kind.Field → Option RspInfoField → Int32 → Bool →
    SpiCallback
  | .positions => .onRspQryInvestorPosition
  | .orders => .onRspQryOrder
  | .trades => .onRspQryTrade

theorem called_callback (kind : QueryKind) (shared : SharedState)
    (field : Option kind.Field) (rspInfo : Option RspInfoField) (requestId : Int32)
    (isLast : Bool) :
    shared.called (kind.callback field rspInfo requestId isLast) =
      onRspQry kind shared field rspInfo requestId isLast := by
  cases kind <;> rfl

theorem requestId_ready (kind : QueryKind) (requestId : Int32) (rows : List kind.Row) :
    (kind.ready requestId rows).requestId = some requestId := by
  cases kind <;> rfl

end QueryKind

/-! ## Other requests do not show -/

/-- The pending entries of a request. -/
def SharedState.entry (shared : SharedState) (requestId : Int32) : Option PendingQuery :=
  shared.pendingQueries.lookup requestId

section Entries

variable (shared : SharedState) {watched requestId : Int32}

theorem entry_registerQuery_self (kind : PendingQuery) :
    (shared.registerQuery requestId kind).entry requestId = some kind :=
  AList.lookup_insert _

theorem entry_registerQuery_ne (kind : PendingQuery) (other : watched ≠ requestId) :
    (shared.registerQuery requestId kind).entry watched = shared.entry watched :=
  AList.lookup_insert_ne other

theorem entry_finishQuery_self (event : TradeSessionEvent) :
    (shared.finishQuery requestId event).1.entry requestId = none :=
  AList.lookup_erase _ _

theorem entry_finishQuery_ne (event : TradeSessionEvent) (other : watched ≠ requestId) :
    (shared.finishQuery requestId event).1.entry watched = shared.entry watched :=
  AList.lookup_erase_ne other

/-- A row goes to the entry of its request where that is of its kind. -/
theorem entry_append_self (kind : QueryKind) (row : kind.Row) :
    (shared.append kind requestId row).entry requestId =
      (((shared.entry requestId).bind kind.rowsOf).map fun rows =>
        kind.pending (rows ++ [row])).or (shared.entry requestId) := by
  rw [SharedState.append, SharedState.entry]
  cases collected : (shared.pendingQueries.lookup requestId).bind kind.rowsOf with
  | none => simp [SharedState.entry, collected]
  | some rows => simp [SharedState.entry, collected]

theorem entry_append_ne (kind : QueryKind) (row : kind.Row) (other : watched ≠ requestId) :
    (shared.append kind requestId row).entry watched = shared.entry watched := by
  rw [SharedState.append]
  split
  · rfl
  · exact AList.lookup_insert_ne other

theorem take_snd (kind : QueryKind) :
    (shared.take kind requestId).2 =
      ((shared.entry requestId).bind kind.rowsOf).getD [] := rfl

theorem entry_take_self (kind : QueryKind) :
    (shared.take kind requestId).1.entry requestId = none :=
  AList.lookup_erase _ _

theorem entry_take_ne (kind : QueryKind) (other : watched ≠ requestId) :
    (shared.take kind requestId).1.entry watched = shared.entry watched :=
  AList.lookup_erase_ne other

end Entries

/-! ## What one callback does -/

section Rows

variable (kind : QueryKind) (shared : SharedState) (field : Option kind.Field)
variable (rspInfo : Option RspInfoField) (isLast : Bool) {watched requestId : Int32}

theorem requestId_onRspQry :
    ∀ event ∈ (onRspQry kind shared field rspInfo requestId isLast).2,
      event.requestId = some requestId := by
  rw [onRspQry]
  cases refusal rspInfo with
  | some info => exact List.forall_mem_singleton.mpr rfl
  | none =>
      cases isLast with
      | false => exact List.forall_mem_nil _
      | true => exact List.forall_mem_singleton.mpr (kind.requestId_ready requestId _)

theorem entry_onRspQry_ne (other : watched ≠ requestId) :
    (onRspQry kind shared field rspInfo requestId isLast).1.entry watched =
      shared.entry watched := by
  rw [onRspQry]
  cases refusal rspInfo with
  | some info => exact entry_finishQuery_ne shared _ other
  | none =>
      have appended : ((field.bind kind.convert).elim shared
          (shared.append kind requestId)).entry watched = shared.entry watched := by
        cases field.bind kind.convert with
        | none => rfl
        | some row => exact entry_append_ne shared kind row other
      cases isLast with
      | false => exact appended
      | true => exact (entry_take_ne _ kind other).trans appended

/-- What a row does to its request depends on the entry of the request only. -/
theorem onRspQry_congr {left right : SharedState}
    (alike : left.entry requestId = right.entry requestId) :
    (onRspQry kind left field rspInfo requestId isLast).1.entry requestId =
        (onRspQry kind right field rspInfo requestId isLast).1.entry requestId ∧
      (onRspQry kind left field rspInfo requestId isLast).2 =
        (onRspQry kind right field rspInfo requestId isLast).2 := by
  simp only [onRspQry]
  cases refusal rspInfo with
  | some info =>
      refine ⟨?_, rfl⟩
      exact (entry_finishQuery_self left _).trans (entry_finishQuery_self right _).symm
  | none =>
      have appended : ((field.bind kind.convert).elim left
          (left.append kind requestId)).entry requestId =
            ((field.bind kind.convert).elim right
              (right.append kind requestId)).entry requestId := by
        cases field.bind kind.convert with
        | none => exact alike
        | some row =>
            simp only [Option.elim_some, entry_append_self, alike]
      cases isLast with
      | false => exact ⟨appended, rfl⟩
      | true =>
          refine ⟨(entry_take_self _ kind).trans (entry_take_self _ kind).symm, ?_⟩
          simp only [if_true, take_snd, appended]

end Rows

theorem requestId_onRsp {refused : Int32 → String → TradeSessionEvent}
    {accepted : TradeSessionEvent} (rspInfo : Option RspInfoField)
    (refusedId : ∀ errorId errorMsg, (refused errorId errorMsg).requestId = none)
    (acceptedId : accepted.requestId = none) :
    (onRsp refused accepted rspInfo).requestId = none := by
  rw [onRsp]
  cases refusal rspInfo with
  | some info => exact refusedId info.errorId info.errorMsg
  | none => exact acceptedId

/-- Every event carries the request id of its callback. -/
theorem requestId_called (shared : SharedState) (callback : SpiCallback) :
    ∀ event ∈ (shared.called callback).2, event.requestId = callback.requestId := by
  cases callback with
  | onFrontConnected | onFrontDisconnected | onHeartBeatWarning =>
      exact List.forall_mem_singleton.mpr rfl
  | onRspAuthenticate rspInfo =>
      exact List.forall_mem_singleton.mpr (requestId_onRsp rspInfo (fun _ _ => rfl) rfl)
  | onRspUserLogin field rspInfo =>
      exact List.forall_mem_singleton.mpr (requestId_onRsp rspInfo (fun _ _ => rfl) rfl)
  | onRspSettlementInfoConfirm rspInfo =>
      exact List.forall_mem_singleton.mpr (requestId_onRsp rspInfo (fun _ _ => rfl) rfl)
  | onRspError rspInfo requestId =>
      cases rspInfo with
      | none => exact List.forall_mem_nil _
      | some info => exact List.forall_mem_singleton.mpr rfl
  | onRspOrderInsert inputOrder rspInfo =>
      cases rspInfo with
      | none => exact List.forall_mem_nil _
      | some info =>
          simp only [SharedState.called, CtpSystem.onRspOrderInsert]
          split
          · exact List.forall_mem_singleton.mpr rfl
          · exact List.forall_mem_nil _
  | onErrRtnOrderInsert inputOrder rspInfo =>
      cases rspInfo with
      | none => exact List.forall_mem_nil _
      | some info => exact List.forall_mem_singleton.mpr rfl
  | onRtnOrder order =>
      simp only [SharedState.called, CtpSystem.onRtnOrder]
      split
      · exact List.forall_mem_singleton.mpr rfl
      · exact List.forall_mem_nil _
  | onRtnTrade trade =>
      simp only [SharedState.called, CtpSystem.onRtnTrade]
      split
      · exact List.forall_mem_singleton.mpr rfl
      · exact List.forall_mem_nil _
  | onRspOrderAction rspInfo requestId =>
      simp only [SharedState.called, CtpSystem.onRspOrderAction]
      cases refusal rspInfo with
      | some info => exact List.forall_mem_singleton.mpr rfl
      | none => exact List.forall_mem_singleton.mpr rfl
  | onRspQryTradingAccount field rspInfo requestId isLast =>
      simp only [SharedState.called, CtpSystem.onRspQryTradingAccount]
      cases refusal rspInfo with
      | some info => exact List.forall_mem_singleton.mpr rfl
      | none =>
          cases isLast with
          | false => exact List.forall_mem_nil _
          | true => exact List.forall_mem_singleton.mpr rfl
  | onRspQryInvestorPosition field rspInfo requestId isLast =>
      exact requestId_onRspQry .positions shared field rspInfo isLast
  | onRspQryOrder field rspInfo requestId isLast =>
      exact requestId_onRspQry .orders shared field rspInfo isLast
  | onRspQryTrade field rspInfo requestId isLast =>
      exact requestId_onRspQry .trades shared field rspInfo isLast

/-- A callback about another request, or about none, leaves the watched entry. -/
theorem entry_called_ne (shared : SharedState) (callback : SpiCallback) {watched : Int32}
    (other : callback.requestId ≠ some watched) :
    (shared.called callback).1.entry watched = shared.entry watched := by
  have ne {requestId : Int32} (different : some requestId ≠ some watched) :
      watched ≠ requestId := by
    intro equal
    exact different (congrArg some equal.symm)
  cases callback with
  | onFrontConnected | onFrontDisconnected | onHeartBeatWarning | onRspAuthenticate
  | onRspUserLogin | onRspSettlementInfoConfirm | onRspError | onRspOrderInsert
  | onErrRtnOrderInsert | onRtnOrder | onRtnTrade => rfl
  | onRspOrderAction rspInfo requestId =>
      simp only [SharedState.called, CtpSystem.onRspOrderAction]
      cases refusal rspInfo with
      | some info => exact entry_finishQuery_ne shared _ (ne other)
      | none => exact entry_finishQuery_ne shared _ (ne other)
  | onRspQryTradingAccount field rspInfo requestId isLast =>
      simp only [SharedState.called, CtpSystem.onRspQryTradingAccount]
      cases refusal rspInfo with
      | some info => exact entry_finishQuery_ne shared _ (ne other)
      | none =>
          cases isLast with
          | false => rfl
          | true => exact entry_finishQuery_ne shared _ (ne other)
  | onRspQryInvestorPosition field rspInfo requestId isLast =>
      exact entry_onRspQry_ne .positions shared field rspInfo isLast (ne other)
  | onRspQryOrder field rspInfo requestId isLast =>
      exact entry_onRspQry_ne .orders shared field rspInfo isLast (ne other)
  | onRspQryTrade field rspInfo requestId isLast =>
      exact entry_onRspQry_ne .trades shared field rspInfo isLast (ne other)

/-- What a callback does to its request depends on the entry of the request only. -/
theorem called_congr {left right : SharedState} {callback : SpiCallback} {watched : Int32}
    (alike : left.entry watched = right.entry watched)
    (about : callback.requestId = some watched) :
    (left.called callback).1.entry watched = (right.called callback).1.entry watched ∧
      (left.called callback).2 = (right.called callback).2 := by
  have finished (requestId : Int32) (event : TradeSessionEvent) :
      (left.finishQuery requestId event).1.entry requestId =
          (right.finishQuery requestId event).1.entry requestId ∧
        (left.finishQuery requestId event).2 = (right.finishQuery requestId event).2 :=
    ⟨(entry_finishQuery_self left event).trans (entry_finishQuery_self right event).symm, rfl⟩
  cases callback with
  | onFrontConnected | onFrontDisconnected | onHeartBeatWarning | onRspAuthenticate
  | onRspUserLogin | onRspSettlementInfoConfirm | onRspOrderInsert | onErrRtnOrderInsert
  | onRtnOrder | onRtnTrade => cases about
  | onRspError rspInfo requestId => exact ⟨alike, rfl⟩
  | onRspOrderAction rspInfo requestId =>
      cases about
      simp only [SharedState.called, CtpSystem.onRspOrderAction]
      cases refusal rspInfo with
      | some info => exact finished watched _
      | none => exact finished watched _
  | onRspQryTradingAccount field rspInfo requestId isLast =>
      cases about
      simp only [SharedState.called, CtpSystem.onRspQryTradingAccount]
      cases refusal rspInfo with
      | some info => exact finished watched _
      | none =>
          cases isLast with
          | false => exact ⟨alike, rfl⟩
          | true => exact finished watched _
  | onRspQryInvestorPosition field rspInfo requestId isLast =>
      cases about
      exact onRspQry_congr .positions field rspInfo isLast alike
  | onRspQryOrder field rspInfo requestId isLast =>
      cases about
      exact onRspQry_congr .orders field rspInfo isLast alike
  | onRspQryTrade field rspInfo requestId isLast =>
      cases about
      exact onRspQry_congr .trades field rspInfo isLast alike

/-- To whoever watches one request id, the inputs about others do not show. -/
theorem unwinding_spi (watched : Int32) :
    Unwinding spi (SpiInput.isAbout watched) (TradeSessionEvent.isAbout watched)
      fun left right => left.entry watched = right.entry watched where
  hidden := by
    intro left right input alike unconcerned
    have other : input.requestId ≠ some watched := of_decide_eq_false unconcerned
    cases input with
    | registerQuery requestId kind =>
        refine ⟨?_, rfl⟩
        have different : watched ≠ requestId := by
          intro equal
          exact other (congrArg some equal.symm)
        exact (entry_registerQuery_ne left kind different).trans alike
    | callback callback =>
        refine ⟨(entry_called_ne left callback other).trans alike, ?_⟩
        rw [List.filter_eq_nil_iff]
        intro event emitted about
        have carried := requestId_called left callback event emitted
        exact other (carried.symm.trans (of_decide_eq_true about))
  shown := by
    intro left right input alike concerned
    have about : input.requestId = some watched := of_decide_eq_true concerned
    cases input with
    | registerQuery requestId kind =>
        cases about
        refine ⟨?_, rfl⟩
        exact (entry_registerQuery_self left kind).trans
          (entry_registerQuery_self right kind).symm
    | callback callback =>
        rcases called_congr alike about with ⟨next, same⟩
        exact ⟨next, congrArg (List.filter _) same⟩

/-! ## The rows of a request -/

/-- The callbacks of a request: a row each, the last one flagged. -/
def QueryKind.rowCallbacks (kind : QueryKind) (requestId : Int32)
    (first : List (Option kind.Field × Option RspInfoField))
    (last : Option kind.Field × Option RspInfoField) : List SpiInput :=
  (first.map fun row => .callback (kind.callback row.1 row.2 requestId false)) ++
    [.callback (kind.callback last.1 last.2 requestId true)]

section Accepted

variable (kind : QueryKind) {shared : SharedState} {requestId : Int32}
variable {rows : List kind.Row} (field : Option kind.Field)
variable {rspInfo : Option RspInfoField}

theorem entry_collect (collected : shared.entry requestId = some (kind.pending rows)) :
    ((field.bind kind.convert).elim shared (shared.append kind requestId)).entry requestId =
      some (kind.pending (rows ++ (field.bind kind.convert).toList)) := by
  cases field.bind kind.convert with
  | none => simp [collected]
  | some row => simp [entry_append_self, collected]

/-- A row that is not the last one is collected. -/
theorem onRspQry_row (collected : shared.entry requestId = some (kind.pending rows))
    (accepted : refusal rspInfo = none) :
    (onRspQry kind shared field rspInfo requestId false).1.entry requestId =
        some (kind.pending (rows ++ (field.bind kind.convert).toList)) ∧
      (onRspQry kind shared field rspInfo requestId false).2 = [] := by
  simp only [onRspQry, accepted]
  exact ⟨entry_collect kind field collected, rfl⟩

/-- The last row is collected, and all of them are handed over. -/
theorem onRspQry_last (collected : shared.entry requestId = some (kind.pending rows))
    (accepted : refusal rspInfo = none) :
    (onRspQry kind shared field rspInfo requestId true).2 =
      [kind.ready requestId (rows ++ (field.bind kind.convert).toList)] := by
  have all := entry_collect kind field collected
  simp only [onRspQry, accepted, if_true, take_snd, all, Option.bind_some,
    QueryKind.rowsOf_pending, Option.getD_some]

end Accepted

/-- The callbacks of a request hand over the rows that convert, in order. -/
theorem outputs_rowCallbacks (kind : QueryKind) {shared : SharedState} {requestId : Int32}
    {rows : List kind.Row} (collected : shared.entry requestId = some (kind.pending rows))
    (first : List (Option kind.Field × Option RspInfoField))
    (last : Option kind.Field × Option RspInfoField)
    (accepted : ∀ row ∈ first ++ [last], refusal row.2 = none) :
    spi.outputs shared (kind.rowCallbacks requestId first last) =
      [kind.ready requestId
        (rows ++ (first ++ [last]).filterMap fun row => row.1.bind kind.convert)] := by
  induction first generalizing shared rows with
  | nil =>
      have handed := onRspQry_last kind last.1 collected (accepted last (by simp))
      rw [← kind.called_callback] at handed
      simp only [QueryKind.rowCallbacks, List.map_nil, List.nil_append, Machine.outputs,
        Machine.emits, spi, handed, List.append_nil]
      cases read : last.1.bind kind.convert with
      | none => simp [read]
      | some row => simp [read]
  | cons row first ih =>
      rcases onRspQry_row kind row.1 collected (accepted row (by simp)) with ⟨next, silent⟩
      rw [← kind.called_callback] at next silent
      have later : ∀ other ∈ first ++ [last], refusal other.2 = none := by
        intro other member
        exact accepted other (List.mem_cons_of_mem row member)
      have rest := ih next later
      calc
        spi.outputs shared (kind.rowCallbacks requestId (row :: first) last) =
            (shared.called (kind.callback row.1 row.2 requestId false)).2 ++
              spi.outputs (shared.called (kind.callback row.1 row.2 requestId false)).1
                (kind.rowCallbacks requestId first last) := rfl
        _ = _ := by
          rw [silent, List.nil_append, rest, List.cons_append]
          cases read : row.1.bind kind.convert with
          | none => simp [read]
          | some value => simp [read]

/-! ## The driver that waits -/

namespace QueryKind

/-- The driver that waits for the rows of a request. -/
def driver : QueryKind → AccountId → Int32 → EnvelopeTx → Driver
  | .positions, _, requestId, replyTo => .queryPositions requestId replyTo
  | .orders, accountId, requestId, replyTo => .queryOrders accountId requestId replyTo
  | .trades, accountId, requestId, replyTo => .queryTrades accountId requestId replyTo

/-- The result made from the rows of a query for an account. -/
def answer : (kind : QueryKind) → World → OrderRegistry → AccountId → List kind.Row → Message
  | .positions, _, _, _, rows => .queryPositionResult rows
  | .orders, world, orderRegistry, accountId, rows =>
      .queryOrdersResult (rows.map fun report =>
        orderReportToWireOrder world.clock.now report accountId
          ((lookupClientId orderRegistry report.clientOrderId).getD
            (defaultQueryClientId orderRegistry)))
  | .trades, world, _, accountId, rows =>
      .queryTradesResult (rows.map (·.intoTrade world.clock accountId))

section Waiting

variable (kind : QueryKind) (accountId : AccountId) {requestId : Int32}
variable (replyTo : EnvelopeTx)

theorem isRequest_driver : (kind.driver accountId requestId replyTo).isRequest = true := by
  cases kind <;> rfl

theorem returnsOn_ready (rows : List kind.Row) :
    (kind.driver accountId requestId replyTo).returnsOn (kind.ready requestId rows) = true := by
  cases kind <;> simp [driver, ready, Driver.returnsOn]

theorem replies_ready (world : World) (orderRegistry : OrderRegistry)
    (rows : List kind.Row) :
    (kind.driver accountId requestId replyTo).replies world orderRegistry
        (kind.ready requestId rows) =
      [.reply replyTo (kind.answer world orderRegistry accountId rows)] := by
  cases kind <;> simp [driver, ready, answer, Driver.replies, queryPositionsAnswer,
    queryOrdersAnswer, queryTradesAnswer]

/-- An event about another request, or about none, is skipped. -/
theorem skips (world : World) (orderRegistry : OrderRegistry) {event : TradeSessionEvent}
    (other : event.requestId ≠ some requestId) :
    (kind.driver accountId requestId replyTo).returnsOn event = false ∧
      (kind.driver accountId requestId replyTo).replies world orderRegistry event = [] := by
  cases kind <;> cases event <;>
    simp_all [driver, Driver.returnsOn, Driver.replies, queryPositionsAnswer,
      queryOrdersAnswer, queryTradesAnswer, TradeSessionEvent.requestId]

end Waiting

end QueryKind

/-- The command of a query for an account. -/
def QueryKind.command : QueryKind → AccountId → Option InstrumentId → EnvelopeTx →
    TradeSessionCommand
  | .positions, queried, instrumentId, replyTo => .queryPosition queried instrumentId replyTo
  | .orders, queried, _, replyTo => .queryOrders queried replyTo
  | .trades, queried, _, replyTo => .queryTrades queried replyTo

/-- A query that gets through is registered under the next request id, and its handler
waits for that id. -/
theorem handleTradeCommand_query (kind : QueryKind) (accountId queried : AccountId)
    (instrumentId : Option InstrumentId) (replyTo : EnvelopeTx) {world : World}
    {actor : TradeActor} {session : TradeSession} (loggedIn : actor.loggedInIds.isSome)
    (present : actor.session = some session) (loaded : session.api.isSome)
    (accepted : world.rc = 0) :
    let handling := handleTradeCommand accountId world actor
      (kind.command queried instrumentId replyTo)
    handling.state.WaitsIn (kind.driver queried (session.requestId + 1) replyTo) ∧
      handling.state.session.bind (·.shared) =
        session.shared.map fun shared =>
          spi.next shared (.registerQuery (session.requestId + 1) (kind.pending [])) := by
  rcases Option.isSome_iff_exists.mp loaded with ⟨api, handle⟩
  have sent (call : String) (pending : Option PendingQuery) (field : Int32 → CtpRequest) :
      (session.request world.rc call pending field).result = .ok (session.requestId + 1) := by
    simp [TradeSession.request, handle, accepted]
  simp only [handleTradeCommand, loggedIn, if_true]
  cases kind with
  | positions | orders | trades =>
      simp only [QueryKind.command, handleLoggedInTradeCommand, withSession, present,
        driveQueryPositions, driveQueryOrders, driveQueryTrades,
        TradeSession.queryInvestorPosition, TradeSession.queryOrders,
        TradeSession.queryTrades]
      rw [TradeActor.submit_of_ok (sent _ _ _)]
      refine ⟨⟨rfl, rfl⟩, ?_⟩
      simp only [TradeActor.waitIn_session, Option.bind_some, TradeSession.request, handle]
      rfl

/-- The effect is a message to the client a command came from. -/
def Effect.isReply : Effect → Bool
  | .reply _ _ => true
  | .push _ _ _ | .request _ _ | .setAccountState _ _ => false

theorem filter_reportPushes (world : World) (orderRegistry : OrderRegistry)
    (event : TradeSessionEvent) :
    (reportPushes world orderRegistry event).filter Effect.isReply = [] := by
  rw [List.filter_eq_nil_iff]
  intro effect member
  rcases mem_reportPushes.mp member with ⟨context, message, -, -, rfl⟩
  exact Bool.false_ne_true

/-- A driver that waits for a request finds its rows behind whatever else is queued, and
replies with them and nothing else. -/
theorem feed_queryDriver (kind : QueryKind) (accountId queried : AccountId)
    {requestId : Int32} (replyTo : EnvelopeTx) {actor : TradeActor}
    (waits : actor.WaitsIn (kind.driver queried requestId replyTo))
    {skipped : List (World × TradeSessionEvent)}
    (others : ∀ input ∈ skipped, input.2.requestId ≠ some requestId)
    (world : World) (rows : List kind.Row) (rest : List (World × TradeSessionEvent)) :
    ((TradeActor.driverLoop accountId).feed actor
        (skipped ++ (world, kind.ready requestId rows) :: rest)).result = some (.ok ()) ∧
      ((TradeActor.driverLoop accountId).feed actor
          (skipped ++ (world, kind.ready requestId rows) :: rest)).outputs.filter
          Effect.isReply =
        [.reply replyTo (kind.answer world actor.orderRegistry queried rows)] := by
  have request : (kind.driver queried requestId replyTo).isRequest = true :=
    kind.isRequest_driver queried replyTo
  have passes : ∀ (later : TradeActor) (input : World × TradeSessionEvent),
      later.WaitsIn (kind.driver queried requestId replyTo) ∧
          later.orderRegistry = actor.orderRegistry →
        input.2.requestId ≠ some requestId →
          ((TradeActor.driverLoop accountId).pass later input).result = none ∧
            (((TradeActor.driverLoop accountId).pass later input).state.WaitsIn
                (kind.driver queried requestId replyTo) ∧
              ((TradeActor.driverLoop accountId).pass later input).state.orderRegistry =
                actor.orderRegistry) ∧
            ((TradeActor.driverLoop accountId).pass later input).outputs.filter
              Effect.isReply = [] := by
    rintro later input ⟨still, same⟩ other
    rcases kind.skips queried replyTo input.1 later.orderRegistry other with ⟨goesOn, silent⟩
    rw [pass_eq accountId still request input, goesOn, silent, List.append_nil]
    exact ⟨rfl, ⟨⟨still.1, rfl⟩, same⟩, filter_reportPushes _ _ _⟩
  rcases ReceiveLoop.filter_feed_append passes ⟨waits, rfl⟩ others
      ((world, kind.ready requestId rows) :: rest) with
    ⟨later, ⟨still, same⟩, outputs, result⟩
  have pass := pass_eq accountId still request (world, kind.ready requestId rows)
  rw [kind.returnsOn_ready, kind.replies_ready, same] at pass
  have returned : ((TradeActor.driverLoop accountId).pass later
      (world, kind.ready requestId rows)).result.isSome := by
    rw [pass]
    rfl
  rw [outputs, result, ReceiveLoop.feed_cons_of_returned returned, pass]
  refine ⟨rfl, ?_⟩
  simp only [List.filter_append, filter_reportPushes, List.nil_append]
  rfl

/-- Whatever else is registered and reported in between, a request whose callbacks carry
no error and flag the last row only is handed over once, with the rows that convert; and
the driver that waits for it, with whatever is still queued in front, replies with those
rows only. -/
theorem query_answered_with_own_rows (kind : QueryKind) (requestId : Int32)
    (before after : List SpiInput)
    (first : List (Option kind.Field × Option RspInfoField))
    (last : Option kind.Field × Option RspInfoField)
    (fresh : ∀ input ∈ before, input.requestId ≠ some requestId)
    (own : after.filter (SpiInput.isAbout requestId) = kind.rowCallbacks requestId first last)
    (accepted : ∀ row ∈ first ++ [last], refusal row.2 = none) :
    let registered := before ++ [.registerQuery requestId (kind.pending [])]
    let rows := (first ++ [last]).filterMap fun row => row.1.bind kind.convert
    (spi.outputs {} (registered ++ after)).filter (TradeSessionEvent.isAbout requestId) =
        [kind.ready requestId rows] ∧
      ∀ (accountId queried : AccountId) (replyTo : EnvelopeTx) (actor : TradeActor)
        (stale : List TradeSessionEvent) (queue : List (World × TradeSessionEvent)),
        actor.WaitsIn (kind.driver queried requestId replyTo) →
        stale <:+ spi.outputs {} before →
        queue.map (·.2) = stale ++ spi.outputs (spi.runFrom {} registered) after →
        ∃ world, (world, kind.ready requestId rows) ∈ queue ∧
          ((TradeActor.driverLoop accountId).feed actor queue).result = some (.ok ()) ∧
          ((TradeActor.driverLoop accountId).feed actor queue).outputs.filter
              Effect.isReply =
            [.reply replyTo (kind.answer world actor.orderRegistry queried rows)] := by
  intro registered rows
  have unwinding := unwinding_spi requestId
  have unconcerned : before.filter (SpiInput.isAbout requestId) = [] := by
    rw [List.filter_eq_nil_iff]
    intro input member about
    exact fresh input member (of_decide_eq_true about)
  have earlier : (spi.outputs {} before).filter (TradeSessionEvent.isAbout requestId) = [] := by
    rw [unwinding.outputs_filter rfl before, unconcerned]
    rfl
  have collected : (spi.runFrom {} registered).entry requestId = some (kind.pending []) := by
    rw [Machine.runFrom_append]
    exact entry_registerQuery_self _ _
  have later : (spi.outputs (spi.runFrom {} registered) after).filter
      (TradeSessionEvent.isAbout requestId) = [kind.ready requestId rows] := by
    rw [unwinding.outputs_filter rfl after, own,
      outputs_rowCallbacks kind collected first last accepted]
    exact List.filter_cons_of_pos (decide_eq_true (kind.requestId_ready requestId _))
  constructor
  · rw [Machine.outputs_append, List.filter_append, later, Machine.outputs_append,
      List.filter_append, earlier]
    rfl
  · intro accountId queried replyTo actor stale queue waits suffix queued
    have silent : stale.filter (TradeSessionEvent.isAbout requestId) = [] := by
      rw [List.filter_eq_nil_iff] at earlier ⊢
      intro event member
      exact earlier event (suffix.subset member)
    have only : (queue.filter fun input => input.2.isAbout requestId).map (·.2) =
        [kind.ready requestId rows] := by
      calc
        _ = (queue.map (·.2)).filter (TradeSessionEvent.isAbout requestId) := by
          rw [List.filter_map]
          rfl
        _ = _ := by rw [queued, List.filter_append, silent, later, List.nil_append]
    rcases List.map_eq_singleton_iff.mp only with ⟨⟨world, event⟩, found, equal⟩
    cases equal
    rcases List.filter_eq_cons_iff.mp found with ⟨skipped, rest, rfl, others, -, -⟩
    have skips : ∀ input ∈ skipped, input.2.requestId ≠ some requestId := by
      intro input member equal
      exact others input member (decide_eq_true equal)
    exact ⟨world, List.mem_append_right skipped List.mem_cons_self,
      feed_queryDriver kind accountId queried replyTo waits skips world rows rest⟩

/-- A position row of some instrument, with a direction flag and a volume. -/
def InvestorPositionField.sample (instrumentId : String) (posiDirection : Int8)
    (position : Int32) : InvestorPositionField where
  instrumentId := instrumentId
  posiDirection := posiDirection
  investorId := "1001"
  position := position
  ydPosition := 0
  openCost := ⟨0⟩
  positionCost := ⟨0⟩
  useMargin := ⟨0⟩
  positionProfit := ⟨0⟩

/-- Two position queries whose rows come interleaved, the earlier one still queued when
the later one is waited for: the row without a volume and the rows of the earlier query
do not show. -/
theorem query_answered_with_own_rows_interleaved :
    let row instrumentId volume requestId isLast := SpiInput.callback
      (.onRspQryInvestorPosition (some (.sample instrumentId 50 volume)) none requestId isLast)
    let held : Position :=
      ⟨⟨"1001"⟩, ⟨"au2612"⟩, .buy, 3, 0, ⟨0⟩, ⟨0⟩, ⟨0⟩, ⟨0⟩⟩
    let actor := { TradeActor.online with driver := some (.queryPositions 5 ⟨1⟩) }
    let registered : List SpiInput :=
      [.registerQuery 4 (.positions []), row "cu2611" 7 4 false] ++
        [.registerQuery 5 (.positions [])]
    let after := [row "au2612" 3 5 false, row "cu2612" 2 4 true, row "ag2612" 0 5 true]
    (spi.outputs {} (registered ++ after)).filter (TradeSessionEvent.isAbout 5) =
        [.queryPositionsReady 5 [held]] ∧
      ((TradeActor.driverLoop ⟨"1001"⟩).feed actor
          ((spi.outputs (spi.runFrom {} registered) after).map
            fun event => (World.accepting {}, event))).outputs.filter Effect.isReply =
        [.reply ⟨1⟩ (.queryPositionResult [held])] := by
  intro row held actor registered after
  have answered := query_answered_with_own_rows .positions 5
    [.registerQuery 4 (.positions []), row "cu2611" 7 4 false] after
    [(some (.sample "au2612" 50 3), none)] (some (.sample "ag2612" 50 0), none)
    (by decide) (by decide) (by decide)
  rcases answered.2 ⟨"1001"⟩ ⟨"1001"⟩ ⟨1⟩ actor []
      ((spi.outputs (spi.runFrom {} registered) after).map
        fun event => (World.accepting {}, event))
      ⟨by decide, rfl⟩ List.nil_suffix (List.map_map.trans (List.map_id _))
    with ⟨world, -, -, replied⟩
  exact ⟨answered.1, replied⟩

end CtpSystem
