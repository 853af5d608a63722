import CtpSystem.Trade.Queries

/-!
# How a request ends

CTP answers a request with callbacks under its request id.  The first of them that carries
an error or is flagged as the last one ends the request, and the event it emits is made
from the callbacks of that request alone.
-/

namespace CtpSystem

open Reactive

/-! ## Requests and their callbacks -/

/-- The requests that are answered under their request id. -/
inductive RequestKind where
  | account
  | rows (kind : QueryKind)
  | cancel
  deriving DecidableEq

/-- The kind of request a callback answers. -/
def SpiCallback.answers : SpiCallback → Option RequestKind
  | .onRspQryTradingAccount _ _ _ _ => some .account
  | .onRspQryInvestorPosition _ _ _ _ => some (.rows .positions)
  | .onRspQryOrder _ _ _ _ => some (.rows .orders)
  | .onRspQryTrade _ _ _ _ => some (.rows .trades)
  | .onRspOrderAction _ _ => some .cancel
  | .onFrontConnected | .onFrontDisconnected _ | .onHeartBeatWarning _
  | .onRspAuthenticate _ | .onRspUserLogin _ _ | .onRspSettlementInfoConfirm _
  | .onRspError _ _ | .onRspOrderInsert _ _ | .onErrRtnOrderInsert _ _ | .onRtnOrder _
  | .onRtnTrade _ => none

/-- The error an answer carries. -/
def SpiCallback.refusal : SpiCallback → Option RspInfoField
  | .onRspQryTradingAccount _ rspInfo _ _ | .onRspQryInvestorPosition _ rspInfo _ _
  | .onRspQryOrder _ rspInfo _ _ | .onRspQryTrade _ rspInfo _ _
  | .onRspOrderAction rspInfo _ => CtpSystem.refusal rspInfo
  | _ => none

/-- The answer is the last one to its request; an order action has one answer. -/
def SpiCallback.isLast : SpiCallback → Bool
  | .onRspQryTradingAccount _ _ _ isLast | .onRspQryInvestorPosition _ _ _ isLast
  | .onRspQryOrder _ _ _ isLast | .onRspQryTrade _ _ _ isLast => isLast
  | .onRspOrderAction _ _ => true
  | _ => false

/-- The callback ends the request. -/
def SpiCallback.ends (requestId : Int32) (callback : SpiCallback) : Bool :=
  callback.requestId = some requestId && callback.answers.isSome &&
    (callback.refusal.isSome || callback.isLast)

/-- The funds an answer reports. -/
def SpiCallback.balance : SpiCallback → Option AccountBalance
  | .onRspQryTradingAccount field _ _ _ => field.map tradingAccountToBalance
  | _ => none

/-- The row a callback reports for a request. -/
def QueryKind.rowOf : (kind : QueryKind) → Int32 → SpiCallback → Option kind.Row
  | .positions, requestId, .onRspQryInvestorPosition field _ reported _ =>
      if reported = requestId then field.bind (convert .positions) else none
  | .orders, requestId, .onRspQryOrder field _ reported _ =>
      if reported = requestId then field.bind (convert .orders) else none
  | .trades, requestId, .onRspQryTrade field _ reported _ =>
      if reported = requestId then field.bind (convert .trades) else none
  | _, _, _ => none

/-- The rows reported for a request, in the order of the callbacks. -/
def QueryKind.rowsIn (kind : QueryKind) (requestId : Int32) (callbacks : List SpiCallback) :
    List kind.Row :=
  callbacks.filterMap (kind.rowOf requestId)

/-- The event answers the request: it hands over its result, or its error. -/
def TradeSessionEvent.concludes (requestId : Int32) : TradeSessionEvent → Bool
  | .error _ _ _ => false
  | event => event.isAbout requestId

namespace RequestKind

/-- The pending entry of a request that was answered by some callbacks so far. -/
def collected (requestId : Int32) (callbacks : List SpiCallback) : RequestKind → PendingQuery
  | .account => .account
  | .rows kind => kind.pending (kind.rowsIn requestId callbacks)
  | .cancel => .cancel

/-- The event of an error. -/
def refused (requestId : Int32) (info : RspInfoField) : RequestKind → TradeSessionEvent
  | .account | .rows _ => .queryFailed requestId info.errorId info.errorMsg
  | .cancel => .cancelActionFailed requestId info.errorId info.errorMsg

/-- The event of an answer without an error. -/
def accepted (requestId : Int32) (callbacks : List SpiCallback) (last : SpiCallback) :
    RequestKind → TradeSessionEvent
  | .account =>
      .queryAccountReady requestId
        (last.balance.getD ⟨⟨""⟩, ⟨0⟩, ⟨0⟩, ⟨0⟩, ⟨0⟩, ⟨0⟩, ⟨0⟩, ⟨0⟩⟩)
  | .rows kind => kind.ready requestId (kind.rowsIn requestId callbacks)
  | .cancel => .cancelActionOk requestId

/-- The event that ends a request: the error of its last callback, or what the callbacks
reported. -/
def conclusion (requestId : Int32) (callbacks : List SpiCallback) (last : SpiCallback)
    (kind : RequestKind) : TradeSessionEvent :=
  match last.refusal with
  | some info => kind.refused requestId info
  | none => kind.accepted requestId callbacks last

/-- A callback under the id of a request answers in the way of its kind. -/
def Fits (requestId : Int32) (callback : SpiCallback) (kind : RequestKind) : Prop :=
  callback.requestId = some requestId → ∀ answered, callback.answers = some answered →
    answered = kind

end RequestKind

/-! ## One callback -/

section Callback

variable {requestId : Int32} {callback : SpiCallback}

/-- Any other callback leaves the entry of a request and does not conclude it. -/
theorem called_unanswered (shared : SharedState)
    (other : callback.requestId ≠ some requestId ∨ callback.answers = none) :
    (shared.called callback).1.entry requestId = shared.entry requestId ∧
      (shared.called callback).2.find? (·.concludes requestId) = none := by
  rw [List.find?_eq_none]
  by_cases about : callback.requestId = some requestId
  · have unanswered : callback.answers = none := other.resolve_left (absurd about)
    cases callback with
    | onRspError rspInfo reported =>
        refine ⟨rfl, ?_⟩
        intro event emitted
        rcases Option.map_eq_some_iff.mp (Option.mem_toList.mp emitted) with ⟨info, -, rfl⟩
        exact Bool.false_ne_true
    | onFrontConnected | onFrontDisconnected | onHeartBeatWarning | onRspAuthenticate
    | onRspUserLogin | onRspSettlementInfoConfirm | onRspOrderInsert | onErrRtnOrderInsert
    | onRtnOrder | onRtnTrade => cases about
    | onRspOrderAction | onRspQryTradingAccount | onRspQryInvestorPosition | onRspQryOrder
    | onRspQryTrade => cases unanswered
  · refine ⟨entry_called_ne shared callback about, ?_⟩
    intro event emitted concludes
    have carried := requestId_called shared callback event emitted
    apply about
    rw [← carried]
    cases event <;> first | cases concludes | exact of_decide_eq_true concludes

/-- Nor does it add to what was collected. -/
theorem collected_unanswered {kind : RequestKind} {earlier : List SpiCallback}
    (other : callback.requestId ≠ some requestId ∨ callback.answers = none) :
    kind.collected requestId (earlier ++ [callback]) = kind.collected requestId earlier := by
  have rowless (kind : QueryKind) : kind.rowOf requestId callback = none := by
    cases kind <;> cases callback <;>
      simp_all [QueryKind.rowOf, SpiCallback.requestId, SpiCallback.answers]
  cases kind with
  | account | cancel => rfl
  | rows kind =>
      simp only [RequestKind.collected, QueryKind.rowsIn, List.filterMap_append,
        List.filterMap_cons, rowless, List.filterMap_nil, List.append_nil]

/-- What an answer does to its request: the entry it leaves while the request goes on, and
the event it emits where it ends the request. -/
structure Answered (requestId : Int32) (kind : RequestKind) (earlier : List SpiCallback)
    (callback : SpiCallback) (outcome : SharedState × List TradeSessionEvent) : Prop where
  waits : callback.ends requestId = false →
    outcome.1.entry requestId = some (kind.collected requestId (earlier ++ [callback])) ∧
      outcome.2.find? (·.concludes requestId) = none
  ends : callback.ends requestId = true →
    outcome.2.find? (·.concludes requestId) =
      some (kind.conclusion requestId (earlier ++ [callback]) callback)

theorem concludes_ready (kind : QueryKind) (rows : List kind.Row) :
    (kind.ready requestId rows).concludes requestId = true := by
  cases kind <;> exact decide_eq_true rfl

section Rows

variable (kind : QueryKind) (field : Option kind.Field) (rspInfo : Option RspInfoField)
variable (isLast : Bool)

theorem rowOf_callback (requestId : Int32) :
    kind.rowOf requestId (kind.callback field rspInfo requestId isLast) =
      field.bind kind.convert := by
  cases kind <;> exact if_pos rfl

theorem rowsIn_concat (earlier : List SpiCallback) :
    kind.rowsIn requestId (earlier ++ [kind.callback field rspInfo requestId isLast]) =
      kind.rowsIn requestId earlier ++ (field.bind kind.convert).toList := by
  have row := rowOf_callback kind field rspInfo isLast requestId
  rw [QueryKind.rowsIn, List.filterMap_append, List.filterMap_cons, row]
  cases field.bind kind.convert <;> rfl

theorem refusal_callback :
    (kind.callback field rspInfo requestId isLast).refusal = refusal rspInfo := by
  cases kind <;> rfl

theorem ends_callback :
    (kind.callback field rspInfo requestId isLast).ends requestId =
      ((refusal rspInfo).isSome || isLast) := by
  cases kind <;> simp [SpiCallback.ends, QueryKind.callback, SpiCallback.requestId,
    SpiCallback.answers, SpiCallback.refusal, SpiCallback.isLast]

/-- A row is collected; an error or the last row ends the query. -/
theorem answered_rows {shared : SharedState} {earlier : List SpiCallback}
    (entry : shared.entry requestId =
      some ((RequestKind.rows kind).collected requestId earlier)) :
    Answered requestId (.rows kind) earlier
      (kind.callback field rspInfo requestId isLast)
      (shared.called (kind.callback field rspInfo requestId isLast)) where
  waits := by
    intro goesOn
    rw [ends_callback, Bool.or_eq_false_iff, Option.isSome_eq_false_iff,
      Option.isNone_iff_eq_none] at goesOn
    rcases goesOn with ⟨accepted, rfl⟩
    rcases onRspQry_row kind field entry accepted with ⟨next, silent⟩
    rw [kind.called_callback, next, silent, RequestKind.collected, rowsIn_concat]
    exact ⟨rfl, rfl⟩
  ends := by
    intro ends
    rw [kind.called_callback, RequestKind.conclusion, refusal_callback]
    cases refused : refusal rspInfo with
    | some info =>
        simp only [onRspQry, refused, SharedState.queryError, SharedState.finishQuery]
        exact List.find?_cons_of_pos (decide_eq_true rfl)
    | none =>
        rw [ends_callback, refused] at ends
        cases ends
        rw [onRspQry_last kind field entry refused]
        simp only [RequestKind.accepted, rowsIn_concat]
        exact List.find?_cons_of_pos (concludes_ready kind _)

end Rows

/-- An answer to a request of its kind. -/
theorem answered_called {kind : RequestKind} {shared : SharedState}
    {earlier : List SpiCallback}
    (entry : shared.entry requestId = some (kind.collected requestId earlier))
    (about : callback.requestId = some requestId) (answers : callback.answers = some kind) :
    Answered requestId kind earlier callback (shared.called callback) := by
  cases callback with
  | onFrontConnected | onFrontDisconnected | onHeartBeatWarning | onRspAuthenticate
  | onRspUserLogin | onRspSettlementInfoConfirm | onRspError | onRspOrderInsert
  | onErrRtnOrderInsert | onRtnOrder | onRtnTrade => cases answers
  | onRspQryInvestorPosition field rspInfo reported isLast =>
      cases about
      cases answers
      exact answered_rows .positions field rspInfo isLast entry
  | onRspQryOrder field rspInfo reported isLast =>
      cases about
      cases answers
      exact answered_rows .orders field rspInfo isLast entry
  | onRspQryTrade field rspInfo reported isLast =>
      cases about
      cases answers
      exact answered_rows .trades field rspInfo isLast entry
  | onRspOrderAction rspInfo reported =>
      cases about
      cases answers
      refine ⟨?_, ?_⟩
      · intro goesOn
        simp [SpiCallback.ends, SpiCallback.requestId, SpiCallback.answers,
          SpiCallback.isLast] at goesOn
      · intro ends
        simp only [SharedState.called, onRspOrderAction, RequestKind.conclusion,
          SpiCallback.refusal]
        cases refusal rspInfo with
        | some info => exact List.find?_cons_of_pos (decide_eq_true rfl)
        | none => exact List.find?_cons_of_pos (decide_eq_true rfl)
  | onRspQryTradingAccount field rspInfo reported isLast =>
      cases about
      cases answers
      simp only [SharedState.called, onRspQryTradingAccount]
      refine ⟨?_, ?_⟩
      · intro goesOn
        simp only [SpiCallback.ends, SpiCallback.requestId, SpiCallback.answers,
          SpiCallback.refusal, SpiCallback.isLast, decide_true, Option.isSome_some,
          Bool.true_and, Bool.or_eq_false_iff, Option.isSome_eq_false_iff,
          Option.isNone_iff_eq_none] at goesOn
        rcases goesOn with ⟨accepted, rfl⟩
        rw [accepted]
        exact ⟨entry, rfl⟩
      · intro ends
        simp only [RequestKind.conclusion, SpiCallback.refusal]
        cases refused : refusal rspInfo with
        | some info => exact List.find?_cons_of_pos (decide_eq_true rfl)
        | none =>
            simp only [SpiCallback.ends, SpiCallback.refusal, refused, SpiCallback.isLast,
              Option.isSome_none, Bool.false_or, Bool.and_eq_true] at ends
            rw [ends.2]
            exact List.find?_cons_of_pos (decide_eq_true rfl)

end Callback

/-! ## All callbacks since a request -/

/-- The first event that answers a request comes from the first callback that ends it, and
is made from the callbacks of the request up to that one. -/
theorem find_conclusion {requestId : Int32} {kind : RequestKind} {shared : SharedState}
    {earlier callbacks : List SpiCallback} {event : TradeSessionEvent}
    (entry : shared.entry requestId = some (kind.collected requestId earlier))
    (fits : ∀ callback ∈ callbacks, kind.Fits requestId callback)
    (found : (spi.outputs shared (callbacks.map .callback)).find? (·.concludes requestId) =
      some event) :
    ∃ first last rest, callbacks = first ++ last :: rest ∧
      (∀ callback ∈ first, callback.ends requestId = false) ∧
      last.ends requestId = true ∧
      event = kind.conclusion requestId (earlier ++ first ++ [last]) last := by
  induction callbacks generalizing shared earlier with
  | nil => cases found
  | cons callback callbacks ih =>
      have later : ∀ other ∈ callbacks, kind.Fits requestId other := by
        intro other member
        exact fits other (List.mem_cons_of_mem callback member)
      have goesOn : callback.ends requestId = false →
          (shared.called callback).1.entry requestId =
            some (kind.collected requestId (earlier ++ [callback])) →
          (shared.called callback).2.find? (·.concludes requestId) = none →
          ∃ first last rest, callback :: callbacks = first ++ last :: rest ∧
            (∀ callback ∈ first, callback.ends requestId = false) ∧
            last.ends requestId = true ∧
            event = kind.conclusion requestId (earlier ++ first ++ [last]) last := by
        intro unended next silent
        rw [List.map_cons, Machine.outputs, List.find?_append] at found
        have emitted : (spi.emits shared (.callback callback)).find?
            (·.concludes requestId) = none := silent
        rw [emitted, Option.none_or] at found
        rcases ih next later found with ⟨first, last, rest, rfl, waiting, ends, same⟩
        refine ⟨callback :: first, last, rest, rfl, ?_, ends, ?_⟩
        · exact List.forall_mem_cons.mpr ⟨unended, waiting⟩
        · rw [same, List.append_assoc earlier, List.singleton_append]
      by_cases other : callback.requestId ≠ some requestId ∨ callback.answers = none
      · rcases called_unanswered shared other with ⟨kept, silent⟩
        have unended : callback.ends requestId = false := by
          rcases other with different | unanswered
          · simp [SpiCallback.ends, different]
          · simp [SpiCallback.ends, unanswered]
        refine goesOn unended ?_ silent
        rw [kept, entry, collected_unanswered other]
      · rw [not_or, not_not] at other
        rcases Option.ne_none_iff_exists'.mp other.2 with ⟨answered, answers⟩
        cases fits callback List.mem_cons_self other.1 answered answers
        have outcome := answered_called entry other.1 answers
        cases ends : callback.ends requestId with
        | false => exact goesOn ends (outcome.waits ends).1 (outcome.waits ends).2
        | true =>
            have emitted : (spi.emits shared (.callback callback)).find?
                (·.concludes requestId) =
                  some (kind.conclusion requestId (earlier ++ [callback]) callback) :=
              outcome.ends ends
            rw [List.map_cons, Machine.outputs, List.find?_append, emitted, Option.some_or]
              at found
            cases found
            refine ⟨[], callback, callbacks, rfl, List.forall_mem_nil _, ends, ?_⟩
            rw [List.append_nil]

end CtpSystem
