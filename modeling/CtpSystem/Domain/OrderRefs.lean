import CtpSystem.Domain.Reports

/-!
# Normalized order refs

An order ref consists of the first twelve ASCII letters and digits of a client order id.  It
is its own normal form, and so is what is left of it after it has been padded.
-/

namespace CtpSystem

/-- The first twelve ASCII alphanumerics among some characters. -/
def orderRefChars (value : List Char) : List Char :=
  (value.filter isAsciiAlphanumeric).take 12

/-- The string has the form of an order ref: at most twelve ASCII letters and digits. -/
def IsOrderRef (value : String) : Prop :=
  value.length ≤ 12 ∧ ∀ c ∈ value.toList, isAsciiAlphanumeric c = true

/-- The value with something that is neither letter nor digit on either side. -/
def PaddedWith (value padded : String) : Prop :=
  ∃ left right : String, (∀ c ∈ left.toList, isAsciiAlphanumeric c = false) ∧
    (∀ c ∈ right.toList, isAsciiAlphanumeric c = false) ∧ padded = left ++ value ++ right

theorem toList_normalizeOrderRef (value : String) :
    (normalizeOrderRef value).toList = orderRefChars value.toList :=
  String.toList_ofList

theorem isAsciiAlphanumeric_of_mem_orderRefChars {value : List Char} {c : Char}
    (member : c ∈ orderRefChars value) : isAsciiAlphanumeric c = true :=
  (List.mem_filter.mp (List.mem_of_mem_take member)).2

/-- An order ref has the form of one. -/
theorem isOrderRef_normalizeOrderRef (value : String) :
    IsOrderRef (normalizeOrderRef value) := by
  rw [IsOrderRef, ← String.length_toList, toList_normalizeOrderRef]
  constructor
  · exact List.length_take_le 12 _
  · intro c member
    exact isAsciiAlphanumeric_of_mem_orderRefChars member

/-- Strings of the form of an order ref are their own normal forms, and no others. -/
theorem normalizeOrderRef_eq_self_iff (value : String) :
    normalizeOrderRef value = value ↔ IsOrderRef value := by
  constructor
  · intro same
    rw [← same]
    exact isOrderRef_normalizeOrderRef value
  · rintro ⟨short, plain⟩
    apply String.toList_injective
    rw [toList_normalizeOrderRef, orderRefChars, List.filter_eq_self.mpr plain]
    apply List.take_of_length_le
    rwa [String.length_toList]

/-- A normalized order ref is its own key. -/
theorem normalizeOrderRef_idempotent (value : String) :
    normalizeOrderRef (normalizeOrderRef value) = normalizeOrderRef value :=
  (normalizeOrderRef_eq_self_iff _).mpr (isOrderRef_normalizeOrderRef value)

/-- Padding does not change the normal form. -/
theorem normalizeOrderRef_of_padded {value padded : String} (around : PaddedWith value padded) :
    normalizeOrderRef padded = normalizeOrderRef value := by
  rcases around with ⟨left, right, before, after, rfl⟩
  have nothing : ∀ {padding : String}, (∀ c ∈ padding.toList, isAsciiAlphanumeric c = false) →
      padding.toList.filter isAsciiAlphanumeric = [] := by
    intro padding blank
    rw [List.filter_eq_nil_iff]
    intro c member
    rw [blank c member]
    exact Bool.false_ne_true
  rw [normalizeOrderRef, normalizeOrderRef, String.toList_append, String.toList_append,
    List.filter_append, List.filter_append, nothing before, nothing after, List.nil_append,
    List.append_nil]

/-- An order ref is empty exactly when there is no letter or digit to take. -/
theorem normalizeOrderRef_eq_empty_iff (value : String) :
    normalizeOrderRef value = "" ↔ ∀ c ∈ value.toList, isAsciiAlphanumeric c = false := by
  rw [← String.toList_inj, toList_normalizeOrderRef, orderRefChars]
  simp [List.take_eq_nil_iff, List.filter_eq_nil_iff]

/-- Letters and digits are ASCII. -/
theorem toNat_lt_of_isAsciiAlphanumeric {c : Char} (plain : isAsciiAlphanumeric c = true) :
    c.toNat < 128 := by
  have ranges : (48 ≤ c.toNat ∧ c.toNat ≤ 57) ∨ (65 ≤ c.toNat ∧ c.toNat ≤ 90) ∨
      (97 ≤ c.toNat ∧ c.toNat ≤ 122) := by
    simpa [isAsciiAlphanumeric, UInt32.le_iff_toNat_le, or_assoc] using plain
  omega

/-- An ASCII character is one byte. -/
theorem utf8Size_of_ascii {c : Char} (ascii : c.toNat < 128) : c.utf8Size = 1 := by
  have low : c.val ≤ 127 := UInt32.le_iff_toNat_le.mpr (Nat.le_of_lt_succ ascii)
  exact if_pos low

/-- A string of ASCII characters has as many bytes as characters. -/
theorem utf8ByteSize_of_ascii {value : List Char} (ascii : ∀ c ∈ value, c.toNat < 128) :
    (String.ofList value).utf8ByteSize = value.length := by
  induction value with
  | nil => rfl
  | cons c rest ih =>
      have first := utf8Size_of_ascii (ascii c List.mem_cons_self)
      have others := ih fun other member => ascii other (List.mem_cons_of_mem c member)
      rw [String.ofList_cons, String.utf8ByteSize_append, String.utf8ByteSize_singleton, first,
        others, List.length_cons, Nat.add_comm]

/-- An order ref is at most twelve ASCII bytes. -/
theorem ascii_normalizeOrderRef (value : String) :
    (normalizeOrderRef value).utf8ByteSize ≤ 12 ∧
      ∀ c ∈ (normalizeOrderRef value).toList, c.toNat < 128 := by
  have ascii : ∀ c ∈ orderRefChars value.toList, c.toNat < 128 := by
    intro c member
    exact toNat_lt_of_isAsciiAlphanumeric (isAsciiAlphanumeric_of_mem_orderRefChars member)
  constructor
  · exact (utf8ByteSize_of_ascii ascii).trans_le (List.length_take_le 12 _)
  · rw [toList_normalizeOrderRef]
    exact ascii

end CtpSystem
