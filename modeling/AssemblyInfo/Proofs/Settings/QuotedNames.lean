import AssemblyInfo.Proofs.Settings.Declared
import Mathlib.Logic.Function.Iterate

/-!
# Assemblies named with quotes

The names of assemblies with access to internals may be given with double quotes around them, in any
number. The model is the one of the names alone.
-/

namespace AssemblyInfo
open Folded Model

/-- `IsBare name` says that `name` neither starts nor ends with a double quote. -/
def IsBare (name : String) : Prop :=
  name.toList.head? ≠ some '"' ∧ name.toList.getLast? ≠ some '"'

/-! ### Quotes around a name -/

theorem toList_quote (name : String) : (quote name).toList = '"' :: (name.toList ++ ['"']) := by
  simp [quote]

theorem toList_iterate_quote (depth : Nat) (name : String) :
    (quote^[depth] name).toList =
      List.replicate depth '"' ++ (name.toList ++ List.replicate depth '"') := by
  induction depth with
  | zero => simp
  | succ depth ih =>
    calc (quote^[depth + 1] name).toList
        = '"' :: ((quote^[depth] name).toList ++ ['"']) := by
          rw [Function.iterate_succ_apply', toList_quote]
      _ = ('"' :: List.replicate depth '"') ++ (name.toList ++ (List.replicate depth '"' ++ ['"'])) := by
          rw [ih, List.append_assoc, List.append_assoc, List.cons_append]
      _ = _ := by rw [← List.replicate_succ, ← List.replicate_succ']

theorem dropWhile_quotes (depth : Nat) {chars : List Char} (bare : chars.head? ≠ some '"') :
    (List.replicate depth '"' ++ chars).dropWhile (· == '"') = chars := by
  induction depth with
  | zero =>
    cases chars with
    | nil => rfl
    | cons c rest => exact List.dropWhile_cons_of_neg (by simpa using bare)
  | succ depth ih =>
    rw [List.replicate_succ, List.cons_append, List.dropWhile_cons_of_pos rfl, ih]

theorem stripQuotes_wrapped (depth : Nat) {chars : List Char} (starts : chars.head? ≠ some '"')
    (ends : chars.getLast? ≠ some '"') :
    stripQuotes (List.replicate depth '"' ++ (chars ++ List.replicate depth '"')) = chars := by
  unfold stripQuotes
  cases chars with
  | nil =>
    -- Quotes around nothing are one run of quotes.
    have all := dropWhile_quotes (depth + depth) starts
    rw [List.append_nil] at all
    rw [List.nil_append, List.replicate_append_replicate, all]
    rfl
  | cons c rest =>
    have left : (c :: rest ++ List.replicate depth '"').head? ≠ some '"' := starts
    have right : (c :: rest).reverse.head? ≠ some '"' := by rwa [List.head?_reverse]
    rw [dropWhile_quotes depth left]
    dsimp only
    rw [List.reverse_append, List.reverse_replicate, dropWhile_quotes depth right, List.reverse_reverse]

theorem isWrapped_quote (name : String) : isWrapped (quote name).toList = true := by
  have last : (quote name).toList.getLast? = some '"' := by
    rw [toList_quote, ← List.cons_append, List.getLast?_concat]
  rw [isWrapped, last, toList_quote]
  simp

theorem unquote_iterate_quote {name : String} (bare : IsBare name) (depth : Nat) :
    unquote (quote^[depth] name) = name := by
  unfold unquote
  cases depth with
  | zero =>
    have unwrapped : isWrapped name.toList = false := by
      have starts := beq_eq_false_iff_ne.2 bare.1
      rw [isWrapped, starts, Bool.and_false, Bool.false_and]
    rw [Function.iterate_zero_apply, if_neg (by rw [unwrapped]; exact Bool.false_ne_true)]
  | succ depth =>
    have wrapped : isWrapped (quote^[depth + 1] name).toList = true := by
      rw [Function.iterate_succ_apply']
      exact isWrapped_quote _
    rw [if_pos wrapped, toList_iterate_quote, stripQuotes_wrapped _ bare.1 bare.2, String.ofList_toList]

/-! ### Models of quoted names -/

namespace Settings

/-- `settings.allowing names` is `settings` with access to internals for `names`, as they are given. -/
def allowing (settings : Settings) (names : List String) : Settings :=
  { settings with internalsVisibleTo := .list (names.map .text) }

theorem internalsNames_allowing (settings : Settings) (names : List String) :
    (settings.allowing names).internalsNames = names := by
  have texts : ∀ name, (Value.text name).text? = some name := fun _ => rfl
  change (names.map Value.text).filterMap Value.text? = names
  rw [List.filterMap_map]
  exact (List.filterMap_congr fun name _ => texts name).trans List.filterMap_some

theorem internalsVisibleTo_allowing (settings : Settings) (names : List String) :
    (empty.insertAll (settings.allowing names).insertions).internalsVisibleTo.items =
      (firstsBy id (names.map unquote)).map internalsFragment := by
  rw [internalsVisibleTo_insertAll_insertions, internalsNames_allowing, ← firstsBy_internalsFragment,
    List.map_map]
  rfl

theorem IsTyped.allowing {settings : Settings} (typed : settings.IsTyped) (names : List String) :
    (settings.allowing names).IsTyped where
  texts := typed.texts
  flags := typed.flags
  internals := by
    change (names.map Value.text).all Value.isOptionalText = true
    rw [List.all_map]
    exact List.all_eq_true.2 fun _ _ => rfl

/-- A model knows the names without the quotes around them only. -/
theorem build_allowing_congr (settings : Settings) {names others : List String}
    (same : names.map unquote = others.map unquote) :
    build (settings.allowing names) = build (settings.allowing others) := by
  have internals (given : List String) : internalsEdits (settings.allowing given).internalsVisibleTo =
      ((given.map unquote).map fun name => addTo .internalsVisibleTo (.text (internalsFragment name))) ++
        [(requireInternals : Edit)] := by
    change (given.map Value.text).map allow ++ [requireInternals] = _
    rw [List.map_map, List.map_map]
    rfl
  have all : (edits (settings.allowing names) : List Edit) = edits (settings.allowing others) := by
    rw [edits, edits, internals, internals, same]
    rfl
  rw [build, build, all]

/-- Double quotes around names, however many and on whichever names, change nothing in the model, nor does
it change anything to strip them first. Where there is a model it gives access to each name once. -/
theorem build_allowing_quoted (settings : Settings) (names : List (String × Nat))
    (bare : ∀ name ∈ names, IsBare name.1) :
    let plain := names.map Prod.fst
    let quoted := names.map fun name => quote^[name.2] name.1
    build (settings.allowing quoted) = build (settings.allowing plain) ∧
    quoted.map unquote = plain ∧
    build (settings.allowing (quoted.map unquote)) = build (settings.allowing quoted) ∧
    (settings.IsTyped → settings.IsSerialisable → ∃ model, build (settings.allowing quoted) = .ok model ∧
      model.internalsVisibleTo.items = (firstsBy id plain).map internalsFragment) := by
  intro plain quoted
  have stripped : quoted.map unquote = plain := by
    rw [List.map_map]
    exact List.map_congr_left fun name member => unquote_iterate_quote (bare name member) name.2
  have settled : plain.map unquote = plain := by
    rw [List.map_map]
    exact List.map_congr_left fun name member => unquote_iterate_quote (bare name member) 0
  have same : build (settings.allowing quoted) = build (settings.allowing plain) :=
    settings.build_allowing_congr (stripped.trans settled.symm)
  refine ⟨same, stripped, ?_, fun typed serialisable => ?_⟩
  · rw [stripped, same]
  · refine ⟨_, build_eq (typed.allowing quoted) serialisable, ?_⟩
    rw [internalsVisibleTo_allowing, stripped]

/-- Settings with a custom attribute. -/
def signed : Settings where
  customAttributes := some [some ⟨some "Owner", some "Tools", .text "me"⟩]

theorem isTyped_signed : signed.IsTyped where
  texts _ _ := rfl
  flags _ _ := rfl
  internals := rfl

theorem isSerialisable_signed : signed.IsSerialisable := by
  intro custom member
  rw [List.mem_singleton.1 member]
  exact ⟨_, rfl⟩

theorem build_allowing_quoted_nested :
    let names := [("Tools.Tests", 2), ("", 1), ("TOOLS.tests", 0)]
    let quoted := ["\"\"Tools.Tests\"\"", "\"\"", "TOOLS.tests"]
    (∀ name ∈ names, IsBare name.1) ∧ signed.IsTyped ∧ signed.IsSerialisable ∧
      build (signed.allowing quoted) = build (signed.allowing ["Tools.Tests", "", "TOOLS.tests"]) ∧
      ∃ model, build (signed.allowing quoted) = .ok model ∧
        model.internalsVisibleTo.items = ["InternalsVisibleTo(\"Tools.Tests\")", "InternalsVisibleTo(\"\")"] := by
  intro names quoted
  have bare : ∀ name ∈ names, IsBare name.1 := by
    unfold IsBare
    decide
  have spelled : names.map (fun name => quote^[name.2] name.1) = quoted := by decide +kernel
  have firsts : (firstsBy id (names.map Prod.fst)).map internalsFragment =
      ["InternalsVisibleTo(\"Tools.Tests\")", "InternalsVisibleTo(\"\")"] := by
    decide +kernel
  obtain ⟨same, -, -, built⟩ := signed.build_allowing_quoted names bare
  obtain ⟨model, here, items⟩ := built isTyped_signed isSerialisable_signed
  rw [spelled] at same here
  exact ⟨bare, isTyped_signed, isSerialisable_signed, same, model, here, items.trans firsts⟩

end Settings

end AssemblyInfo
