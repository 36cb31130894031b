import AssemblyInfo.Value.Key

/-!
# Keys of texts

A value has the identity of a text only if it is that text.
-/

namespace AssemblyInfo

namespace KeyPart

theorem ofFloat_ne_text (x : Float) (s : String) : ofFloat x ≠ .text s := by
  unfold ofFloat ofFinite
  split
  · dsimp only
    split <;> nofun
  · nofun

theorem ofMoment_ne_text (m : Calendar.Moment) (s : String) : ofMoment m ≠ .text s := by
  unfold ofMoment
  split <;> nofun

end KeyPart

namespace Value

theorem now_of_key {item : String} : ∀ value : Value, value.key = [.text item] → value.now = .text item
  | .later part, same => now_of_key (part ()) same
  | .text s, same => by
    rw [key, List.cons.injEq, KeyPart.text.injEq] at same
    rw [same.1]
    rfl
  | .float x, same => absurd (List.cons.inj same).1 (KeyPart.ofFloat_ne_text x item)
  | .moment m, same => absurd (List.cons.inj same).1 (KeyPart.ofMoment_ne_text m item)
  | .null, same | .bool _, same | .int _, same | .notANumber _, same | .bytes _, same | .date _, same
  | .list _, same | .tuple _, same | .set .., same | .map _, same | .record _, same | .dataclass .., same | .again _, same => by cases same

end Value

end AssemblyInfo
