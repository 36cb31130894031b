import AssemblyInfo.Encoding.SourceText

/-!
# Line feeds in damaged bytes

No byte that could continue a character is a line feed, so a line feed ends whatever ill-formed stretch
stands before it, and reading starts afresh after it. A damaged line is read as replacement characters,
up to its end and no further.
-/

namespace AssemblyInfo.Encoding

/-- The byte of a line feed. -/
def lineFeed : UInt8 := 0x0A

namespace Utf8

/-- `ExpectsHigh state` says that a character which has been started goes on with no ASCII byte. -/
def ExpectsHigh (state : Option Pending) : Prop :=
  ∀ pending, state = some pending → 0x80 ≤ pending.least

theorem expectsHigh_none : ExpectsHigh none := by
  intro pending impossible
  cases impossible

theorem expectsHigh_lead? (byte : UInt8) : ExpectsHigh (lead? byte) := by
  intro pending started
  unfold lead? at started
  repeat' split at started
  all_goals cases started
  all_goals
    dsimp only
    decide

theorem expectsHigh_start (byte : UInt8) : ExpectsHigh (start byte).2 := by
  have led := expectsHigh_lead? byte
  unfold start
  split
  · exact expectsHigh_none
  · cases found : lead? byte with
    | none => exact expectsHigh_none
    | some pending =>
      rw [found] at led
      exact led

theorem expectsHigh_next (pending : Pending) (byte : UInt8) : ExpectsHigh (pending.next byte).2 := by
  unfold Pending.next
  cases pending.after with
  | zero => exact expectsHigh_none
  | succ after =>
    intro later same
    obtain rfl := Option.some.inj same
    dsimp only
    decide

/-- Whatever byte is read, the next one has to be high if it is to continue a character. -/
theorem expectsHigh_step (state : Option Pending) (byte : UInt8) : ExpectsHigh (step state byte).2 := by
  cases state with
  | none => exact expectsHigh_start byte
  | some pending =>
    unfold step
    simp only
    split
    · exact expectsHigh_next pending byte
    · exact expectsHigh_start byte

/-- A line feed ends a started character as the end of the bytes does, but for the flaw. -/
theorem step_lineFeed {state : Option Pending} (expects : ExpectsHigh state) :
    (step state lineFeed).1.map Piece.replaced = (finish state).map Piece.replaced ++ ['\n'] ∧
      (step state lineFeed).2 = none := by
  cases state with
  | none => exact ⟨rfl, rfl⟩
  | some pending =>
    have high := UInt8.le_iff_toNat_le.1 (expects pending rfl)
    have outside : ¬ (pending.least ≤ lineFeed && lineFeed ≤ pending.most) = true := by
      intro inside
      rw [Bool.and_eq_true, decide_eq_true_eq, UInt8.le_iff_toNat_le] at inside
      exact absurd (Nat.le_trans high inside.1) (by decide)
    unfold step
    simp only
    rw [if_neg outside]
    exact ⟨rfl, rfl⟩

theorem piecesFrom_append_lineFeed {state : Option Pending} (expects : ExpectsHigh state)
    (before after : List UInt8) :
    (piecesFrom state (before ++ lineFeed :: after)).map Piece.replaced =
      (piecesFrom state before).map Piece.replaced ++ '\n' :: decodeReplacing after := by
  induction before generalizing state with
  | nil =>
    obtain ⟨found, left⟩ := step_lineFeed expects
    change ((step state lineFeed).1 ++ piecesFrom (step state lineFeed).2 after).map Piece.replaced =
      (finish state).map Piece.replaced ++ '\n' :: decodeReplacing after
    rw [List.map_append, found, left, List.append_assoc]
    rfl
  | cons byte rest ih =>
    rw [List.cons_append, piecesFrom, piecesFrom, List.map_append, List.map_append, List.append_assoc,
      ih (expectsHigh_step state byte)]

theorem decodeReplacing_append_lineFeed (before after : List UInt8) :
    decodeReplacing (before ++ lineFeed :: after) =
      decodeReplacing before ++ '\n' :: decodeReplacing after :=
  piecesFrom_append_lineFeed expectsHigh_none before after

end Utf8

theorem decodeSource_of_unmarked {bytes : List UInt8} (unmarked : markedCharset? bytes = none) :
    decodeSource bytes = Utf8.decodeReplacing bytes := by
  unfold decodeSource
  rw [unmarked]

end AssemblyInfo.Encoding
