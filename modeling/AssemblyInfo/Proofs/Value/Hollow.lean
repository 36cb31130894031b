import AssemblyInfo.Value.Text

/-!
# Values that count as nothing
-/

namespace AssemblyInfo.Value

/-- `value.IsHollow` says that `value` is false, zero or empty, and no mapping. -/
inductive IsHollow : Value → Prop
  | no : IsHollow (.bool false)
  | zero : IsHollow (.int 0)
  | zeroFloat {x : Float} (zero : (x != 0) = false) : IsHollow (.float x)
  | text : IsHollow (.text "")
  | bytes : IsHollow (.bytes [])
  | list : IsHollow (.list [])
  | tuple : IsHollow (.tuple [])
  | set (frozen : Bool) : IsHollow (.set frozen [])

theorem isTruthy_of_isHollow {value : Value} (hollow : value.IsHollow) : value.isTruthy = false := by
  cases hollow with
  | zeroFloat zero => exact zero
  | no | zero | text | bytes | list | tuple | set => rfl

theorem entries?_of_not_isTruthy (value : Value) (nothing : value.isTruthy = false) :
    value.entries? = some [] ∨ value.entries? = none ∧ (value.now = .null ∨ value.now.IsHollow) := by
  match value with
  | .later part => exact entries?_of_not_isTruthy (part ()) nothing
  | .map [] => exact Or.inl rfl
  | .null => exact Or.inr ⟨rfl, Or.inl rfl⟩
  | .bool false => exact Or.inr ⟨rfl, Or.inr .no⟩
  | .int n =>
    obtain rfl : n = 0 := by simpa [isTruthy] using nothing
    exact Or.inr ⟨rfl, Or.inr .zero⟩
  | .float x => exact Or.inr ⟨rfl, Or.inr (.zeroFloat nothing)⟩
  | .text s =>
    obtain rfl : s = "" := by simpa [isTruthy] using nothing
    exact Or.inr ⟨rfl, Or.inr .text⟩
  | .bytes [] => exact Or.inr ⟨rfl, Or.inr .bytes⟩
  | .list [] => exact Or.inr ⟨rfl, Or.inr .list⟩
  | .tuple [] => exact Or.inr ⟨rfl, Or.inr .tuple⟩
  | .set frozen [] => exact Or.inr ⟨rfl, Or.inr (.set frozen)⟩

end AssemblyInfo.Value
