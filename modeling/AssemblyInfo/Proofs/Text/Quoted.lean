import AssemblyInfo.Proofs.Json.Reader
import AssemblyInfo.Text.Quoted
import Mathlib.Algebra.Group.Nat.Defs

/-!
# Reading quoted texts

Every character between quotes can be read in one way only, whether it is escaped or not, and none starts
like the closing quote. So two quoted texts that start one text are the same.
-/

namespace AssemblyInfo.Text

/-- `hexNumber? digits` is the number with the given hexadecimal digits. -/
def hexNumber? (digits : List Char) : Option Nat :=
  digits.foldlM (fun n digit => (hexValue? digit).map (16 * n + ·)) 0

theorem hexNumber?_hexDigits (width n : Nat) : hexNumber? (hexDigits width n) = some (n % 16 ^ width) := by
  induction width generalizing n with
  | zero => rw [Nat.pow_zero, Nat.mod_one]; rfl
  | succ width ih =>
    have step : 16 * (n / 16 % 16 ^ width) + n % 16 = n % 16 ^ (width + 1) := by
      rw [Nat.pow_succ, Nat.mul_comm (16 ^ width) 16, Nat.mod_mul]
      omega
    unfold hexNumber? at ih ⊢
    rw [hexDigits, List.foldlM_append, ih]
    simp [Json.hexValue?_hexDigit, step]

/-- `readQuoted? chars` is the code of the character that `chars` start with, escaped or not, and what
follows. -/
def readQuoted? : List Char → Option (Nat × List Char)
  | [] => none
  | '\\' :: 'x' :: rest => (hexNumber? (rest.take 2)).map (·, rest.drop 2)
  | '\\' :: 'u' :: rest => (hexNumber? (rest.take 4)).map (·, rest.drop 4)
  | '\\' :: 'U' :: rest => (hexNumber? (rest.take 8)).map (·, rest.drop 8)
  | '\\' :: 'n' :: rest => some (0x0A, rest)
  | '\\' :: 'r' :: rest => some (0x0D, rest)
  | '\\' :: 't' :: rest => some (0x09, rest)
  | '\\' :: c :: rest => some (c.toNat, rest)
  | c :: rest => some (c.toNat, rest)

theorem length_hexDigits (width n : Nat) : (hexDigits width n).length = width := by
  induction width generalizing n with
  | zero => rfl
  | succ width ih => rw [hexDigits, List.length_append, ih, List.length_singleton]

theorem hexNumber?_take {width n : Nat} (small : n < 16 ^ width) (rest : List Char) :
    (hexNumber? ((hexDigits width n ++ rest).take width)).map (·, (hexDigits width n ++ rest).drop width) =
      some (n, rest) := by
  rw [List.take_left' (length_hexDigits width n), List.drop_left' (length_hexDigits width n),
    hexNumber?_hexDigits, Nat.mod_eq_of_lt small]
  rfl

theorem readQuoted?_escapeCode {n : Nat} (small : n < 16 ^ 8) (rest : List Char) :
    readQuoted? (escapeCode n ++ rest) = some (n, rest) := by
  unfold escapeCode
  split
  · exact @hexNumber?_take 2 n (by omega) rest
  · split
    · exact @hexNumber?_take 4 n (by omega) rest
    · exact @hexNumber?_take 8 n small rest

theorem readQuoted?_plain {c : Char} (noEscape : c ≠ '\\') (rest : List Char) :
    readQuoted? (c :: rest) = some (c.toNat, rest) := by
  unfold readQuoted?
  split <;> simp_all

section Quote

variable {quote : Char}

theorem readQuoted?_escapeShort? (isQuote : quote = '\'' ∨ quote = '"') {c : Char} {escape : List Char}
    (found : escapeShort? quote c = some escape) (rest : List Char) :
    readQuoted? (escape ++ rest) = some (c.toNat, rest) := by
  unfold escapeShort? at found
  split at found
  · rename_i special
    obtain rfl := Option.some.inj found
    rw [Bool.or_eq_true, decide_eq_true_eq, decide_eq_true_eq] at special
    rcases special with rfl | rfl
    · rcases isQuote with rfl | rfl <;> rfl
    · rfl
  · repeat' split at found
    all_goals cases found
    all_goals
      rename_i same
      rw [same]
      rfl

theorem ne_of_not_escaped {c : Char} (plain : escapeShort? quote c = none) : c ≠ quote ∧ c ≠ '\\' := by
  refine ⟨?_, ?_⟩ <;> rintro rfl <;> simp [escapeShort?] at plain

theorem exists_escapeShort? {c : Char} {escape : List Char} (found : escapeShort? quote c = some escape) :
    ∃ d, escape = ['\\', d] := by
  unfold escapeShort? at found
  repeat' split at found
  all_goals cases found
  all_goals exact ⟨_, rfl⟩

theorem exists_escapeCode (n : Nat) : ∃ rest, escapeCode n = '\\' :: rest := by
  unfold escapeCode
  repeat' split
  all_goals exact ⟨_, rfl⟩

/-- `IsCode quote code number` says that `code` starts no closing `quote`, and is read as `number` whatever
follows it. -/
structure IsCode (quote : Char) (code : List Char) (number : Nat) : Prop where
  read : ∀ rest, readQuoted? (code ++ rest) = some (number, rest)
  apart : ∀ rest, (code ++ rest).head? ≠ some quote

theorem isCode_of_escapeShort? (isQuote : quote = '\'' ∨ quote = '"') {c : Char} {escape : List Char}
    (found : escapeShort? quote c = some escape) : IsCode quote escape c.toNat := by
  refine ⟨readQuoted?_escapeShort? isQuote found, ?_⟩
  obtain ⟨d, rfl⟩ := exists_escapeShort? found
  rcases isQuote with rfl | rfl <;> simp

theorem isCode_escapeCode (isQuote : quote = '\'' ∨ quote = '"') {n : Nat} (small : n < 16 ^ 8) :
    IsCode quote (escapeCode n) n := by
  refine ⟨readQuoted?_escapeCode small, ?_⟩
  obtain ⟨rest, same⟩ := exists_escapeCode n
  rw [same]
  rcases isQuote with rfl | rfl <;> simp

theorem isCode_plain {c : Char} (plain : escapeShort? quote c = none) : IsCode quote [c] c.toNat := by
  obtain ⟨noQuote, noEscape⟩ := ne_of_not_escaped plain
  exact ⟨readQuoted?_plain noEscape, fun rest same => noQuote (Option.some.inj same)⟩

theorem isCode_quotedChar (isQuote : quote = '\'' ∨ quote = '"') (c : Char) :
    IsCode quote (quotedChar quote c) c.toNat := by
  have valid := Encoding.Utf8.toNat_valid c
  unfold quotedChar
  split
  · rename_i escape found
    exact isCode_of_escapeShort? isQuote found
  · rename_i plain
    split
    · exact isCode_plain plain
    · exact isCode_escapeCode isQuote (by omega)

theorem isCode_quotedByte (isQuote : quote = '\'' ∨ quote = '"') (byte : UInt8) :
    IsCode quote (quotedByte quote byte) byte.toNat := by
  have small := byte.toNat_lt
  have codes : ∀ n < 256, (Char.ofNat n).toNat = n := by decide +kernel
  have code := codes byte.toNat small
  unfold quotedByte
  split
  · rename_i escape found
    have escaped := isCode_of_escapeShort? isQuote found
    rwa [code] at escaped
  · rename_i plain
    split
    · have printed := isCode_plain plain
      rwa [code] at printed
    · exact isCode_escapeCode isQuote (by omega)

/-- What is coded between quotes can be read in one way only. -/
theorem coded_inj {α : Type} {code : α → List Char} {number : α → Nat} (injective : Function.Injective number)
    (isCode : ∀ item, IsCode quote (code item) (number item)) {items others : List α} {rest more : List Char}
    (same : items.flatMap code ++ quote :: rest = others.flatMap code ++ quote :: more) :
    items = others ∧ rest = more := by
  -- Where one list ends and the other does not, a code would start with the closing quote.
  induction items generalizing others with
  | nil =>
    cases others with
    | nil => exact ⟨rfl, (List.cons.inj same).2⟩
    | cons other others =>
      have heads := congrArg List.head? same
      rw [List.flatMap_cons, List.append_assoc] at heads
      exact ((isCode other).apart _ heads.symm).elim
  | cons item items ih =>
    cases others with
    | nil =>
      have heads := congrArg List.head? same
      rw [List.flatMap_cons, List.append_assoc] at heads
      exact ((isCode item).apart _ heads).elim
    | cons other others =>
      have read := congrArg readQuoted? same
      rw [List.flatMap_cons, List.flatMap_cons, List.append_assoc, List.append_assoc, (isCode item).read,
        (isCode other).read, Option.some.injEq, Prod.mk.injEq] at read
      obtain ⟨rfl, after⟩ := ih read.2
      exact ⟨by rw [injective read.1], after⟩

end Quote

theorem isQuote_quoteFor (chars : List Char) : quoteFor chars = '\'' ∨ quoteFor chars = '"' := by
  unfold quoteFor
  split
  · exact Or.inr rfl
  · exact Or.inl rfl

theorem quotedChars_inj {chars others rest more : List Char}
    (same : quotedChars chars ++ rest = quotedChars others ++ more) : chars = others ∧ rest = more := by
  unfold quotedChars at same
  rw [List.cons_append, List.cons_append, List.cons_append, List.cons_append, List.append_assoc, List.append_assoc,
    List.cons.injEq] at same
  obtain ⟨quotes, inside⟩ := same
  rw [quotes] at inside
  exact coded_inj (fun c d same => Char.ext (UInt32.toNat_inj.1 same))
    (isCode_quotedChar (isQuote_quoteFor others)) inside

theorem quotedBytes_inj {bytes others : List UInt8} {rest more : List Char}
    (same : (quotedBytes bytes).toList ++ rest = (quotedBytes others).toList ++ more) :
    bytes = others ∧ rest = more := by
  unfold quotedBytes at same
  simp only [String.toList_ofList, List.cons_append, List.append_assoc, List.cons.injEq, true_and] at same
  obtain ⟨quotes, inside⟩ := same
  rw [quotes] at inside
  exact coded_inj (fun first second same => UInt8.toNat_inj.1 same)
    (isCode_quotedByte (isQuote_quoteFor _)) inside

end AssemblyInfo.Text
