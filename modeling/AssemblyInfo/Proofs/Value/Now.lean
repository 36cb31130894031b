import AssemblyInfo.Value.Basic

/-!
# Values that are worked out

Working a value out does not change what can be seen of it.
-/

namespace AssemblyInfo.Value

theorem now_now (value : Value) : value.now.now = value.now := by
  match value with
  | .later part => exact now_now (part ())
  | .null | .bool _ | .int _ | .float _ | .notANumber _ | .text _ | .bytes _ | .date _ | .moment _
  | .list _ | .tuple _ | .set .. | .map _ | .record _ | .dataclass .. | .again _ => rfl

theorem isTruthy_now (value : Value) : value.now.isTruthy = value.isTruthy := by
  match value with
  | .later part => exact isTruthy_now (part ())
  | .null | .bool _ | .int _ | .float _ | .notANumber _ | .text _ | .bytes _ | .date _ | .moment _
  | .list _ | .tuple _ | .set .. | .map _ | .record _ | .dataclass .. | .again _ => rfl

/-- `value.isNull` says that `value` is null. -/
def isNull (value : Value) : Bool :=
  match value.now with
  | .null => true
  | _ => false

theorem isNull_of_now {value : Value} (null : value.now = .null) : value.isNull = true := by
  rw [isNull, null]

theorem now_of_isNull {value : Value} (null : value.isNull = true) : value.now = .null := by
  unfold isNull at null
  split at null
  · assumption
  · cases null

theorem isNull_eq_false {value : Value} (given : value.now ≠ .null) : value.isNull = false := by
  unfold isNull
  split
  · rename_i null
    exact absurd null given
  · rfl

end AssemblyInfo.Value
