import AssemblyInfo.ParseResult.Basic
import AssemblyInfo.Proofs.Json.Reader

/-!
# Parse results as JSON

A parse result is written as an object with a member for each field, and comes back from its JSON text.
-/

namespace AssemblyInfo
open Json

/-- `CustomDeclaration.toJson declaration` is `declaration` as a JSON object. -/
def CustomDeclaration.toJson (declaration : CustomDeclaration) : Json :=
  .object [("name", .text declaration.name), ("value", .text declaration.argument)]

namespace ParseResult

/-- `result.member field` is what stands for `field` in JSON. -/
def member (result : ParseResult) (field : Field) : Json :=
  match result.value field with
  | some s => .text s
  | none => .null

/-- `result.members` is the members of `result` in JSON. -/
def members (result : ParseResult) : List (String × Json) :=
  Field.all.map (fun field => (field.key, result.member field)) ++
    [("internals_visible_to", .array (result.internalsVisibleTo.map .text)),
      ("custom_attributes", .array (result.customAttributes.map CustomDeclaration.toJson))]

theorem toJson_eq_object (result : ParseResult) : result.toJson = .object result.members := rfl

theorem nodup_members (result : ParseResult) : (result.members.map Prod.fst).Nodup := by
  change (Field.all.map Field.key ++ ["internals_visible_to", "custom_attributes"]).Nodup
  decide

theorem lookup_members (result : ParseResult) (field : Field) :
    result.members.lookup field.key = some (result.member field) := by
  cases field <;> rfl

theorem isExact_toJson (result : ParseResult) : result.toJson.isExact = true := by
  rw [toJson_eq_object, isExact, areExactMembers_eq_true]
  intro entry found
  rcases List.mem_append.1 found with field | other
  · obtain ⟨field, -, rfl⟩ := List.mem_map.1 field
    unfold member
    dsimp only
    split <;> rfl
  · rcases List.mem_cons.1 other with rfl | last
    · exact isExact_array_map fun _ => rfl
    · rw [List.mem_singleton.1 last]
      exact isExact_array_map fun _ => rfl

/-- What is printed of a parse result is read as its members. -/
theorem read?_printed (result : ParseResult) :
    Json.read? (String.ofList (result.toJson.indented 0) ++ "\n") = some (.object result.members) :=
  read?_indented (isExact_toJson result)

end ParseResult

end AssemblyInfo
