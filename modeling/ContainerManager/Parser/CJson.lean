import Mathlib.Data.Rat.Floor
import Mathlib.Tactic.Linarith

/-!
# JSON nodes

The cJSON tree, as far as the parsers read it. Every string node has a `valuestring`. A number is
its `valuedouble`, a rational: one that is too large for a double has the same `valueint` as
infinity.
-/

namespace ContainerManager

/-- `cJSON`. The items of an object carry their names. -/
inductive CJson where
  | null
  | bool (value : Bool)
  | number (valuedouble : ℚ)
  | string (valuestring : String)
  | array (items : List CJson)
  | object (items : List (String × CJson))

namespace CJson

/-- `cJSON_GetObjectItemCaseSensitive`: the first item of this name. -/
def getObjectItemCaseSensitive : CJson → String → Option CJson
  | .object items, name => (items.find? fun item => item.1 = name).map Prod.snd
  | _, _ => none

/-- The text of a node that `cJSON_IsString` accepts. -/
def string? : Option CJson → Option String
  | some (.string s) => some s
  | _ => none

/-- The value of a node that `cJSON_IsNumber` accepts. -/
def number? : Option CJson → Option ℚ
  | some (.number q) => some q
  | _ => none

/-- A `double` as an `int` without its fraction. -/
def trunc (number : ℚ) : ℤ := number.num.tdiv number.den

/-- `valueint`, which saturates at the bounds of an `int`. -/
def valueint (number : ℚ) : ℤ :=
  if 2147483647 ≤ number then 2147483647
  else if number ≤ -2147483648 then -2147483648
  else trunc number

/-- The elements of a node that `cJSON_IsArray` accepts. -/
def array? : Option CJson → Option (List CJson)
  | some (.array items) => some items
  | _ => none

/-- The node, when `cJSON_IsObject` accepts it. -/
def object? : Option CJson → Option CJson
  | some (.object items) => some (.object items)
  | _ => none

/-- `cJSON_IsTrue`, for a node that `cJSON_IsBool` accepts. -/
def isTrue : Option CJson → Bool
  | some (.bool b) => b
  | _ => false

/-- The text of the item of this name. -/
def getString (json : CJson) (name : String) : Option String :=
  string? (json.getObjectItemCaseSensitive name)

/-- The number of the item of this name. -/
def getValue (json : CJson) (name : String) : Option ℚ :=
  number? (json.getObjectItemCaseSensitive name)

/-- The `valueint` of the item of this name. -/
def getNumber (json : CJson) (name : String) : Option ℤ := (json.getValue name).map valueint

/-- The elements of the array of this name. -/
def getArray (json : CJson) (name : String) : Option (List CJson) :=
  array? (json.getObjectItemCaseSensitive name)

/-- The object of this name. -/
def getObject (json : CJson) (name : String) : Option CJson :=
  object? (json.getObjectItemCaseSensitive name)

/-- The texts of the first two elements of an array, where they are strings. -/
def firstTwo (items : List CJson) : Option String × Option String :=
  (string? items[0]?, string? items[1]?)

/-! ### Numbers -/

lemma trunc_of_nonneg {q : ℚ} (h : 0 ≤ q) : trunc q = ⌊q⌋ := by
  rw [trunc, Rat.floor_def', Int.tdiv_eq_ediv_of_nonneg (Rat.num_nonneg.mpr h)]

lemma trunc_of_nonpos {q : ℚ} (h : q ≤ 0) : trunc q = ⌈q⌉ := by
  have hneg : trunc (-q) = ⌊-q⌋ := trunc_of_nonneg (neg_nonneg.mpr h)
  rw [trunc, Rat.num_neg_eq_neg_num, Rat.den_neg_eq_den, Int.neg_tdiv, Int.floor_neg] at hneg
  exact neg_injective hneg

lemma valueint_of_nonneg {q : ℚ} (h : 0 ≤ q) : valueint q = min ⌊q⌋ 2147483647 := by
  rw [valueint, if_neg (by linarith : ¬ q ≤ -2147483648), trunc_of_nonneg h]
  split_ifs with hmax
  · exact (min_eq_right (Int.le_floor.mpr (by exact_mod_cast hmax))).symm
  · exact (min_eq_left (Int.floor_le_iff.mpr (by push_cast; linarith))).symm

lemma valueint_of_nonpos {q : ℚ} (h : q ≤ 0) : valueint q = max ⌈q⌉ (-2147483648) := by
  rw [valueint, if_neg (by linarith : ¬ 2147483647 ≤ q), trunc_of_nonpos h]
  split_ifs with hmin
  · exact (max_eq_right (Int.ceil_le.mpr (by exact_mod_cast hmin))).symm
  · exact (max_eq_left (Int.le_ceil_iff.mpr (by push_cast; linarith))).symm

lemma valueint_eq_one_iff {q : ℚ} : valueint q = 1 ↔ 1 ≤ q ∧ q < 2 := by
  rcases le_total 0 q with h | h
  · rw [valueint_of_nonneg h]
    have hfloor : min ⌊q⌋ 2147483647 = 1 ↔ ⌊q⌋ = 1 := by omega
    rw [hfloor, Int.floor_eq_iff]
    norm_num
  · rw [valueint_of_nonpos h]
    have hceil : ⌈q⌉ ≤ 0 := Int.ceil_le.mpr (by exact_mod_cast h)
    constructor
    · intro he
      omega
    · rintro ⟨h1, -⟩
      linarith

lemma valueint_bounds (q : ℚ) : -2147483648 ≤ valueint q ∧ valueint q ≤ 2147483647 := by
  rcases le_total 0 q with hq | hq
  · have hfloor : 0 ≤ ⌊q⌋ := Int.floor_nonneg.mpr hq
    rw [valueint_of_nonneg hq]
    omega
  · have hceil : ⌈q⌉ ≤ 0 := Int.ceil_le.mpr (by exact_mod_cast hq)
    rw [valueint_of_nonpos hq]
    omega

/-- A number is kept exactly when it is an integer in the bounds of an `int`. -/
lemma valueint_eq_iff {q : ℚ} :
    (valueint q : ℚ) = q ↔ ∃ k : ℤ, q = k ∧ -2147483648 ≤ k ∧ k ≤ 2147483647 := by
  constructor
  · intro h
    exact ⟨valueint q, h.symm, valueint_bounds q⟩
  · rintro ⟨k, rfl, hle, hge⟩
    rcases le_total (0 : ℚ) k with hk | hk
    · rw [valueint_of_nonneg hk, Int.floor_intCast, min_eq_left hge]
    · rw [valueint_of_nonpos hk, Int.ceil_intCast, max_eq_left hle]

end CJson

end ContainerManager
