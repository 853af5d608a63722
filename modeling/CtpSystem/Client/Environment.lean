import Mathlib.Data.List.DropRight
import Mathlib.Data.List.Infix
import CtpSystem.Domain.OrderRefs
import CtpSystem.Server.Whitelist

/-!
# What the client reads from its environment

The terminal takes its ids, credentials, instruments and the parameters of its test order
from environment variables.  `std::env` is a function from names to values here; a value that
is not Unicode counts as absent, as it does for every reader below.
-/

namespace CtpSystem

/-- `std::env::var`, without the reason why a variable is absent. -/
abbrev Env := String → Option String

/-- `str::contains`. -/
def contains (value pattern : String) : Bool := pattern.toList <:+: value.toList

/-- A value that was never filled in. -/
def isPlaceholder (value : String) : Bool :=
  trim value = "" || contains value "your-" || contains value "your_"

/-- `client_id_from_env`. -/
def clientIdFromEnv (env : Env) : Except String ClientId :=
  match env "CTP_CLIENT_ID" with
  | none => .error "missing CTP_CLIENT_ID (e.g. CY, HB)"
  | some id =>
      if trim id = "" then .error "CTP_CLIENT_ID must not be empty"
      else .ok ⟨trim id⟩

/-- `required_env`; the two places that have one differ in the text for an absent variable. -/
def requiredEnvOr (absent : String) (env : Env) (name : String) : Except String String :=
  match env name with
  | none => .error absent
  | some value =>
      if isPlaceholder value then .error ("env " ++ name ++ " is not configured")
      else .ok value

/-- `credentials::required_env`. -/
def credentialEnv (env : Env) (name : String) : Except String String :=
  requiredEnvOr ("missing env " ++ name) env name

/-- `main::required_env`. -/
def requiredEnv (env : Env) (name : String) : Except String String :=
  requiredEnvOr "environment variable not found" env name

/-- `load_trade_credentials`. -/
def loadTradeCredentials (env : Env) : Except String AccountCredentials := do
  let accountId ← credentialEnv env "CTP_CLIENT_USER_ID"
  let password ← credentialEnv env "CTP_CLIENT_PASSWORD"
  let brokerId ← credentialEnv env "CTP_BROKER_ID"
  let appId ← credentialEnv env "CTP_APP_ID"
  let authCode ← credentialEnv env "CTP_AUTH_CODE"
  return ⟨⟨accountId⟩, password, brokerId, appId, authCode⟩

/-! ## Instruments -/

/-- The fields of a comma-separated value, as `split(',')` gives them. -/
def fields (value : String) : List String :=
  (value.toList.splitOn ',').map String.ofList

/-- `parse_instruments`. -/
def parseInstruments (value : String) : List InstrumentId :=
  (((fields value).map trim).filter (· ≠ "")).map InstrumentId.mk

/-- The value that names instruments, separated by commas. -/
def renderInstruments (instruments : List InstrumentId) : String :=
  String.ofList ([','].intercalate (instruments.map (·.asStr.toList)))

/-- A name that stands for itself in the value: not empty, without a comma and without
whitespace around it. -/
def IsInstrumentName (instrument : InstrumentId) : Prop :=
  instrument.asStr ≠ "" ∧ trim instrument.asStr = instrument.asStr ∧
    ',' ∉ instrument.asStr.toList

theorem toList_trim (value : String) :
    (trim value).toList = (value.toList.dropWhile isWhitespace).rdropWhile isWhitespace := by
  rw [trim, String.toList_ofList]
  rfl

/-- What is trimmed has no whitespace left to trim. -/
theorem trim_trim (value : String) : trim (trim value) = trim value := by
  let tail := value.toList.dropWhile isWhitespace
  have front : (tail.rdropWhile isWhitespace).dropWhile isWhitespace =
      tail.rdropWhile isWhitespace := by
    rw [List.dropWhile_eq_self_iff]
    intro some
    have shorter : tail.rdropWhile isWhitespace <+: tail := List.rdropWhile_prefix _ _
    rw [shorter.getElem some]
    exact List.dropWhile_get_zero_not _ _ _
  apply String.toList_injective
  rw [toList_trim, toList_trim, front]
  exact List.rdropWhile_idempotent _ _

theorem mem_toList_trim {value : String} {c : Char} (member : c ∈ (trim value).toList) :
    c ∈ value.toList := by
  rw [toList_trim] at member
  exact (List.dropWhile_sublist _).subset ((List.rdropWhile_prefix _ _).subset member)

/-- The fields of a value have no comma. -/
theorem comma_notMem_fields {value field : String} (member : field ∈ fields value) :
    ',' ∉ field.toList := by
  have apart (chars : List Char) : ∀ part ∈ chars.splitOn ',', ',' ∉ part := by
    induction chars with
    | nil => simp
    | cons c rest ih =>
        rw [List.splitOn_cons_eq_if_modifyHead]
        cases parts : rest.splitOn ',' with
        | nil => exact absurd parts (List.splitOn_ne_nil _ _)
        | cons head tail =>
            rw [parts] at ih
            intro part member
            split at member
            · rcases List.mem_cons.mp member with rfl | later
              · simp
              · exact ih part later
            next other =>
              rcases List.mem_cons.mp member with rfl | later
              · intro inside
                rcases List.mem_cons.mp inside with rfl | deeper
                · exact other (by simp)
                · exact ih head List.mem_cons_self deeper
              · exact ih part (List.mem_cons_of_mem head later)
  rcases List.mem_map.mp member with ⟨part, split, rfl⟩
  rw [String.toList_ofList]
  exact apart value.toList part split

/-- The names of a rendered value are its fields. -/
theorem fields_renderInstruments {instruments : List InstrumentId}
    (names : ∀ instrument ∈ instruments, ',' ∉ instrument.asStr.toList)
    (some : instruments ≠ []) :
    fields (renderInstruments instruments) = instruments.map (·.asStr) := by
  rw [fields, renderInstruments, String.toList_ofList, List.splitOn_intercalate]
  · simp
  · intro field member
    rcases List.mem_map.mp member with ⟨instrument, listed, rfl⟩
    exact names instrument listed
  · simpa using some

/-- A name that stands for itself survives the trimming and the filter. -/
theorem parse_names {instruments : List InstrumentId}
    (names : ∀ instrument ∈ instruments, IsInstrumentName instrument) :
    (((instruments.map (·.asStr)).map trim).filter (· ≠ "")).map InstrumentId.mk =
      instruments := by
  induction instruments with
  | nil => rfl
  | cons instrument rest ih =>
      rcases names instrument List.mem_cons_self with ⟨present, trimmed, -⟩
      rw [List.map_cons, List.map_cons, trimmed, List.filter_cons_of_pos (by simpa using present),
        List.map_cons, ih]
      intro later member
      exact names later (List.mem_cons_of_mem instrument member)

/-- What is parsed are names that stand for themselves. -/
theorem isInstrumentName_of_parsed {value : String} {instrument : InstrumentId}
    (member : instrument ∈ parseInstruments value) : IsInstrumentName instrument := by
  rcases List.mem_map.mp member with ⟨name, kept, rfl⟩
  rcases List.mem_filter.mp kept with ⟨trimmed, present⟩
  rcases List.mem_map.mp trimmed with ⟨field, split, rfl⟩
  refine ⟨of_decide_eq_true present, trim_trim field, ?_⟩
  intro inside
  exact comma_notMem_fields split (mem_toList_trim inside)

/-- Instruments, rendered, are parsed back exactly when they are names that stand for
themselves; what a value is parsed to always is, so rendering it changes nothing. -/
theorem instruments_parse_back (value : String) (instruments : List InstrumentId) :
    (parseInstruments (renderInstruments instruments) = instruments ↔
        ∀ instrument ∈ instruments, IsInstrumentName instrument) ∧
      parseInstruments (renderInstruments (parseInstruments value)) =
        parseInstruments value := by
  have back (listed : List InstrumentId)
      (names : ∀ instrument ∈ listed, IsInstrumentName instrument) :
      parseInstruments (renderInstruments listed) = listed := by
    rw [parseInstruments]
    cases listed with
    | nil => decide
    | cons instrument rest =>
        rw [fields_renderInstruments (fun name member => (names name member).2.2)
          (List.cons_ne_nil instrument rest)]
        exact parse_names names
  refine ⟨⟨?_, back instruments⟩, ?_⟩
  · intro parsed instrument member
    rw [← parsed] at member
    exact isInstrumentName_of_parsed member
  · apply back
    intro instrument member
    exact isInstrumentName_of_parsed member

/-! ## The test order -/

/-- `parse_direction`. -/
def parseDirection (value : String) : Except String Direction :=
  match String.ofList (value.toList.map Char.toLower) with
  | "buy" | "b" => .ok .buy
  | "sell" | "s" => .ok .sell
  | _ => .error ("invalid CTP_TEST_ORDER_DIRECTION=" ++ value ++ ", expected Buy or Sell")

/-- The digits of an `i32`, added up from the left and checked at each digit. -/
def i32Digits (negative : Bool) : Int → List Char → Except String Int32
  | total, [] => .ok (Int32.ofInt total)
  | total, c :: rest =>
      if !c.isDigit then .error "invalid digit found in string"
      else
        let digit : Int := c.toNat - '0'.toNat
        let next := if negative then total * 10 - digit else total * 10 + digit
        if next < Int32.minValue.toInt then .error "number too small to fit in target type"
        else if Int32.maxValue.toInt < next then
          .error "number too large to fit in target type"
        else i32Digits negative next rest

/-- `str::parse::<i32>`. -/
def parseI32 (value : String) : Except String Int32 :=
  match value.toList with
  | [] => .error "cannot parse integer from empty string"
  | ['+'] | ['-'] => .error "invalid digit found in string"
  | '+' :: digits => i32Digits false 0 digits
  | '-' :: digits => i32Digits true 0 digits
  | digits => i32Digits false 0 digits

example : parseI32 "-2147483648" = .ok (-2147483648) ∧
    parseI32 "2147483648" = .error "number too large to fit in target type" := by decide

/-- `optional_env_f64` and `optional_env_i32`: an absent or blank value is none. -/
def optionalEnv {α : Type} (parse : String → Except String α) (env : Env) (name : String) :
    Except String (Option α) :=
  match env name with
  | none => .ok none
  | some value => if trim value = "" then .ok none else (parse value).map some

/-- The floating-point operations the terminal uses: `str::parse::<f64>`, the product,
`f64::floor`, `f64::ceil` and `f64::max`. -/
structure FloatOps where
  parse : String → Except String F64
  mul : F64 → F64 → F64
  floor : F64 → F64
  ceil : F64 → F64
  max : F64 → F64 → F64

/-- `passive_limit_price`. -/
def FloatOps.passiveLimitPrice (floats : FloatOps) (lastPrice : F64) : Direction → F64
  -- The doubles nearest to 0.98, 1.0 and 1.02.
  | .buy =>
      floats.max (floats.floor (floats.mul lastPrice ⟨0x3FEF5C28F5C28F5C⟩))
        ⟨0x3FF0000000000000⟩
  | .sell => floats.ceil (floats.mul lastPrice ⟨0x3FF051EB851EB852⟩)

/-- `Option::ok_or_else`. -/
def okOr {α : Type} (message : String) : Option α → Except String α
  | some value => .ok value
  | none => .error message

/-- The id of a test order submitted at a clock reading in milliseconds. -/
def testOrderId (millis : Int) : ClientOrderId := ⟨toString (millis.tmod 1000000000000)⟩

/-- `build_passive_test_order`. -/
def buildPassiveTestOrder (env : Env) (floats : FloatOps) (millis : Int)
    (accountId : AccountId) (lastTick : Option (InstrumentId × F64)) :
    Except String OrderRequest := do
  let instrumentId ← okOr "missing CTP_TEST_ORDER_INSTRUMENT and no tick received"
    (((env "CTP_TEST_ORDER_INSTRUMENT").map InstrumentId.mk).or (lastTick.map (·.1)))
  let direction ← parseDirection ((env "CTP_TEST_ORDER_DIRECTION").getD "Buy")
  let lastPrice ← okOr "missing tick price" (lastTick.map (·.2))
  let price ← optionalEnv floats.parse env "CTP_TEST_ORDER_PRICE"
  let volume ← optionalEnv parseI32 env "CTP_TEST_ORDER_VOLUME"
  return {
    clientOrderId := testOrderId millis
    accountId := accountId
    instrumentId := instrumentId
    direction := direction
    offset := .open
    orderType := .limit
    volume := volume.getD 1
    price := price.getD (floats.passiveLimitPrice lastPrice direction) }

/-- `is_cancelable_status`. -/
def isCancelableStatus : OrderStatus → Bool
  | .submitted | .accepted | .partiallyFilled => true
  | _ => false

/-- `is_terminal_status`. -/
def isTerminalStatus : OrderStatus → Bool
  | .cancelled | .filled | .rejected => true
  | _ => false

theorem exists_of_bind_eq_ok {ε α β : Type} {first : Except ε α} {rest : α → Except ε β}
    {value : β} (done : (first >>= rest) = .ok value) :
    ∃ between, first = .ok between ∧ rest between = .ok value := by
  cases first with
  | error message => cases done
  | ok between => exact ⟨between, rfl, done⟩

/-- A test order is for the given account, under the id of the clock reading, opens a
position at a limit price, and is built after a tick. -/
theorem buildPassiveTestOrder_ok {env : Env} {floats : FloatOps} {millis : Int}
    {accountId : AccountId} {lastTick : Option (InstrumentId × F64)} {order : OrderRequest}
    (built : buildPassiveTestOrder env floats millis accountId lastTick = .ok order) :
    order.clientOrderId = testOrderId millis ∧ order.accountId = accountId ∧
      order.offset = .open ∧ order.orderType = .limit ∧ lastTick.isSome := by
  rcases exists_of_bind_eq_ok built with ⟨instrumentId, -, built⟩
  rcases exists_of_bind_eq_ok built with ⟨direction, -, built⟩
  rcases exists_of_bind_eq_ok built with ⟨lastPrice, ticked, built⟩
  rcases exists_of_bind_eq_ok built with ⟨price, -, built⟩
  rcases exists_of_bind_eq_ok built with ⟨volume, -, built⟩
  cases built
  refine ⟨rfl, rfl, rfl, rfl, ?_⟩
  cases lastTick with
  | none => cases ticked
  | some tick => rfl

/-- The id of a test order is a number in decimal digits, with a sign before 1970. -/
theorem isOrderRef_testOrderId_iff (millis : Int) :
    IsOrderRef (testOrderId millis).asStr ↔ 0 ≤ millis.tmod 1000000000000 := by
  simp only [testOrderId, IsOrderRef, Int.toString_eq_repr, Int.repr_eq_if]
  have bound : millis.tmod 1000000000000 < 1000000000000 := Int.tmod_lt_of_pos _ (by decide)
  split
  next positive =>
    refine iff_of_true ⟨?_, ?_⟩ positive
    · rw [Nat.length_repr_le_iff (by decide)]
      omega
    · intro c member
      rw [Nat.toList_repr] at member
      have digit := Nat.isDigit_of_mem_toDigits (by decide) (by decide) member
      simp only [Char.isDigit, Bool.and_eq_true, decide_eq_true_eq] at digit
      simp only [isAsciiAlphanumeric, Bool.or_eq_true, Bool.and_eq_true, decide_eq_true_eq]
      exact Or.inl (Or.inl digit)
  next negative =>
    refine iff_of_false ?_ negative
    rintro ⟨-, plain⟩
    have sign := plain '-' (by simp)
    cases sign

/-- However the order ref of the terminal's test order is padded on the way, the lookup key
computed from the echo is the order's id itself, exactly where the clock has passed 1970;
and from then on two test orders have the same id exactly where their clock readings are
equal modulo 10^12 milliseconds.  The update that is pushed carries the echo as it came. -/
theorem test_order_comes_back_iff (millis : Int) (earlier later : Nat) :
    ((∀ padded, PaddedWith (normalizeOrderRef (testOrderId millis).asStr) padded →
        normalizeOrderRef padded = (testOrderId millis).asStr) ↔
      0 ≤ millis.tmod 1000000000000) ∧
    (testOrderId earlier = testOrderId later ↔
      earlier % 1000000000000 = later % 1000000000000) := by
  constructor
  · rw [← isOrderRef_testOrderId_iff, ← normalizeOrderRef_eq_self_iff]
    constructor
    · intro returns
      have bare := returns (normalizeOrderRef (testOrderId millis).asStr)
        ⟨"", "", by simp, by simp, by simp⟩
      rwa [normalizeOrderRef_idempotent] at bare
    · intro same padded around
      rw [normalizeOrderRef_of_padded around, normalizeOrderRef_idempotent, same]
  · have digits (reading : Nat) : (testOrderId reading).asStr.toList =
        Nat.toDigits 10 (reading % 1000000000000) := by
      rw [← Nat.toList_repr]
      rfl
    constructor
    · intro same
      have equal := congrArg (fun id => Nat.ofDigitChars 10 id.asStr.toList 0) same
      simpa only [digits, Nat.ofDigitChars_ten_toDigits] using equal
    · intro same
      have equal : (testOrderId earlier).asStr = (testOrderId later).asStr :=
        String.toList_injective (by rw [digits, digits, same])
      exact congrArg ClientOrderId.mk equal

end CtpSystem
