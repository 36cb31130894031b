import AssemblyInfo.Calendar
import AssemblyInfo.Proofs.Json.Reader

/-!
# Reading dates and times as they are shown

Dates and times are shown with their numbers, of which zeros at the end are left out, and with their offset
as a span of days and seconds. So two that start one text are the same.
-/

namespace AssemblyInfo.Calendar
open Decimal

theorem naturalText_inj {n m : Nat} {rest more : List Char} (ends : Json.endsNumber rest = true)
    (endsThen : Json.endsNumber more = true) (same : naturalText n ++ rest = naturalText m ++ more) :
    n = m ∧ rest = more := by
  have read := congrArg Json.readNatural? same
  rw [Json.readNatural?_naturalText n ends, Json.readNatural?_naturalText m endsThen] at read
  exact Prod.mk.inj (Option.some.inj read)

theorem integerText_inj {n m : Int} {rest more : List Char} (ends : Json.endsNumber rest = true)
    (endsThen : Json.endsNumber more = true) (same : integerText n ++ rest = integerText m ++ more) :
    n = m ∧ rest = more := by
  have read := congrArg Json.readInteger? same
  rw [Json.readInteger?_integerText n ends, Json.readInteger?_integerText m endsThen] at read
  exact Prod.mk.inj (Option.some.inj read)

/-! ### Numbers one after the other -/

theorem joined_cons (part : String) (rest : List String) :
    (", ".intercalate (part :: rest)).toList = part.toList ++ rest.flatMap fun next => ',' :: ' ' :: next.toList := by
  rw [String.toList_intercalate]
  induction rest generalizing part with
  | nil => simp [List.intercalate]
  | cons next others ih =>
    rw [List.map_cons, List.map_cons, List.intercalate_cons_cons, ← List.map_cons, ih, List.flatMap_cons]
    simp

/-- `furtherText numbers` is `numbers` after another one. -/
def furtherText (numbers : List Nat) : List Char :=
  numbers.flatMap fun n => ',' :: ' ' :: naturalText n

theorem argumentsText_cons (n : Nat) (rest : List Nat) :
    (argumentsText (n :: rest)).toList = naturalText n ++ furtherText rest := by
  unfold argumentsText furtherText
  rw [List.map_cons, joined_cons, List.flatMap_map, String.toList_ofList]
  simp

/-- `Closes rest` says that no further number stands in front of `rest`. -/
def Closes (rest : List Char) : Prop :=
  Json.endsNumber rest = true ∧ ∀ n more, rest ≠ ',' :: ' ' :: (naturalText n ++ more)

theorem endsNumber_furtherText (numbers : List Nat) {rest : List Char} (ends : Json.endsNumber rest = true) :
    Json.endsNumber (furtherText numbers ++ rest) = true := by
  cases numbers with
  | nil => exact ends
  | cons n others => rfl

theorem furtherText_inj {numbers others : List Nat} {rest more : List Char} (closes : Closes rest)
    (closesThen : Closes more) (same : furtherText numbers ++ rest = furtherText others ++ more) :
    numbers = others ∧ rest = more := by
  -- `Closes` rules out that one list goes on where the other has ended.
  induction numbers generalizing others with
  | nil =>
    cases others with
    | nil => exact ⟨rfl, same⟩
    | cons m others => exact (closes.2 m (furtherText others ++ more) (by simpa [furtherText] using same)).elim
  | cons n numbers ih =>
    cases others with
    | nil => exact (closesThen.2 n (furtherText numbers ++ rest) (by simpa [furtherText] using same.symm)).elim
    | cons m others =>
      have inside : naturalText n ++ (furtherText numbers ++ rest) = naturalText m ++ (furtherText others ++ more) := by
        simpa [furtherText] using same
      obtain ⟨rfl, further⟩ := naturalText_inj (endsNumber_furtherText numbers closes.1)
        (endsNumber_furtherText others closesThen.1) inside
      obtain ⟨rfl, after⟩ := ih further
      exact ⟨rfl, after⟩

theorem argumentsText_inj {n m : Nat} {numbers others : List Nat} {rest more : List Char} (closes : Closes rest)
    (closesThen : Closes more)
    (same : (argumentsText (n :: numbers)).toList ++ rest = (argumentsText (m :: others)).toList ++ more) :
    n :: numbers = m :: others ∧ rest = more := by
  rw [argumentsText_cons, argumentsText_cons, List.append_assoc, List.append_assoc] at same
  obtain ⟨rfl, further⟩ := naturalText_inj (endsNumber_furtherText numbers closes.1)
    (endsNumber_furtherText others closesThen.1) same
  obtain ⟨rfl, after⟩ := furtherText_inj closes closesThen further
  exact ⟨rfl, after⟩

theorem closes_parenthesis (rest : List Char) : Closes (')' :: rest) :=
  ⟨rfl, fun _ _ same => by cases (List.cons.inj same).1⟩

/-! ### Dates -/

theorem date_shown_append (date : Date) (rest : List Char) : date.shown.toList ++ rest =
    "datetime.date(".toList ++ ((argumentsText [date.year, date.month, date.day]).toList ++ ')' :: rest) := by
  simp [Date.shown]

theorem date_shown_inj {date other : Date} {rest more : List Char}
    (same : date.shown.toList ++ rest = other.shown.toList ++ more) : date = other ∧ rest = more := by
  rw [date_shown_append, date_shown_append] at same
  obtain ⟨numbers, closed⟩ := argumentsText_inj (closes_parenthesis rest) (closes_parenthesis more)
    (List.append_cancel_left same)
  simp only [List.cons.injEq, and_true] at numbers
  obtain ⟨years, months, days⟩ := numbers
  cases date
  cases other
  simp only at years months days
  exact ⟨by rw [years, months, days], (List.cons.inj closed).2⟩

/-! ### Spans of time -/

/-- `secondsInside seconds rest` is what follows the days of a span, up to its end and beyond. -/
def secondsInside (seconds : Int) (rest : List Char) : List Char :=
  if seconds = 0 then ')' :: rest else ", seconds=".toList ++ (integerText seconds ++ ')' :: rest)

theorem secondsInside_inj {seconds others : Int} {rest more : List Char}
    (same : secondsInside seconds rest = secondsInside others more) : seconds = others ∧ rest = more := by
  unfold secondsInside at same
  split at same <;> split at same
  · rename_i none noneThen
    exact ⟨none.trans noneThen.symm, (List.cons.inj same).2⟩
  · cases (List.cons.inj same).1
  · cases (List.cons.inj same).1
  · obtain ⟨numbers, closed⟩ := integerText_inj (by rfl) (by rfl) (List.append_cancel_left same)
    exact ⟨numbers, (List.cons.inj closed).2⟩

theorem endsNumber_secondsInside (seconds : Int) (rest : List Char) :
    Json.endsNumber (secondsInside seconds rest) = true := by
  unfold secondsInside
  split <;> rfl

/-- `spanInside days seconds rest` is what a span starts with, up to its end and beyond. -/
def spanInside (days seconds : Int) (rest : List Char) : List Char :=
  if days = 0 then
    if seconds = 0 then '0' :: ')' :: rest else "seconds=".toList ++ (integerText seconds ++ ')' :: rest)
  else "days=".toList ++ (integerText days ++ secondsInside seconds rest)

theorem spanText_append (minutes : Int) (rest : List Char) : (spanText minutes).toList ++ rest =
    "datetime.timedelta(".toList ++ spanInside (minutes.fdiv 1440) (minutes.fmod 1440 * 60) rest := by
  unfold spanText spanInside secondsInside
  by_cases days : minutes.fdiv 1440 = 0 <;> by_cases seconds : minutes.fmod 1440 * 60 = 0 <;>
    simp [days, seconds]

theorem spanInside_inj {days seconds otherDays otherSeconds : Int} {rest more : List Char}
    (same : spanInside days seconds rest = spanInside otherDays otherSeconds more) :
    days = otherDays ∧ seconds = otherSeconds ∧ rest = more := by
  unfold spanInside at same
  by_cases none : days = 0 <;> by_cases noneThen : otherDays = 0
  · rw [if_pos none, if_pos noneThen] at same
    refine ⟨none.trans noneThen.symm, ?_⟩
    split at same <;> split at same
    · rename_i zero zeroThen
      exact ⟨zero.trans zeroThen.symm, (List.cons.inj (List.cons.inj same).2).2⟩
    · cases (List.cons.inj same).1
    · cases (List.cons.inj same).1
    · obtain ⟨numbers, closed⟩ := integerText_inj (by rfl) (by rfl) (List.append_cancel_left same)
      exact ⟨numbers, (List.cons.inj closed).2⟩
  · rw [if_pos none, if_neg noneThen] at same
    split at same <;> cases (List.cons.inj same).1
  · rw [if_neg none, if_pos noneThen] at same
    split at same <;> cases (List.cons.inj same).1
  · rw [if_neg none, if_neg noneThen] at same
    obtain ⟨numbers, further⟩ := integerText_inj (endsNumber_secondsInside _ _) (endsNumber_secondsInside _ _)
      (List.append_cancel_left same)
    exact ⟨numbers, secondsInside_inj further⟩

theorem spanText_inj {minutes others : Int} {rest more : List Char}
    (same : (spanText minutes).toList ++ rest = (spanText others).toList ++ more) :
    minutes = others ∧ rest = more := by
  rw [spanText_append, spanText_append] at same
  obtain ⟨days, seconds, after⟩ := spanInside_inj (List.append_cancel_left same)
  have split := Int.mul_fdiv_add_fmod minutes 1440
  have splitThen := Int.mul_fdiv_add_fmod others 1440
  exact ⟨by omega, after⟩

/-! ### Times -/

/-- `zoneText offset rest` is what follows the numbers of a time, up to its end and beyond. -/
def zoneText (offset : Option Int) (rest : List Char) : List Char :=
  match offset with
  | none => ')' :: rest
  | some minutes =>
    if minutes = 0 then ", tzinfo=datetime.timezone.utc)".toList ++ rest
    else ", tzinfo=datetime.timezone(".toList ++ ((spanText minutes).toList ++ ')' :: ')' :: rest)

theorem zoneText_inj {offset other : Option Int} {rest more : List Char}
    (same : zoneText offset rest = zoneText other more) : offset = other ∧ rest = more := by
  unfold zoneText at same
  cases offset with
  | none =>
    cases other with
    | none => exact ⟨rfl, (List.cons.inj same).2⟩
    | some others =>
      dsimp only at same
      split at same <;> cases (List.cons.inj same).1
  | some minutes =>
    cases other with
    | none =>
      dsimp only at same
      split at same <;> cases (List.cons.inj same).1
    | some others =>
      dsimp only at same
      split at same <;> split at same
      · rename_i none noneThen
        exact ⟨by rw [none, noneThen], List.append_cancel_left same⟩
      · exact absurd same (by simp)
      · exact absurd same (by simp)
      · obtain ⟨rfl, closed⟩ := spanText_inj (List.append_cancel_left same)
        exact ⟨rfl, (List.cons.inj (List.cons.inj closed).2).2⟩

theorem closes_zoneText (offset : Option Int) (rest : List Char) : Closes (zoneText offset rest) := by
  have word : ∀ more, Closes (", tzinfo=".toList ++ more) := by
    refine fun more => ⟨rfl, fun n others same => ?_⟩
    obtain ⟨d, digits, start, digit⟩ := exists_naturalText n
    rw [start] at same
    obtain rfl := (List.cons.inj (List.cons.inj (List.cons.inj same).2).2).1
    cases digit
  unfold zoneText
  split
  · exact closes_parenthesis rest
  · split
    · exact word _
    · exact word _

/-- `lateNumbers second microsecond` is the numbers after the minute, without zeros at the end. -/
def lateNumbers (second microsecond : Nat) : List Nat :=
  if microsecond != 0 then [second, microsecond] else if second != 0 then [second] else []

theorem lateNumbers_inj {second microsecond otherSecond otherMicrosecond : Nat}
    (same : lateNumbers second microsecond = lateNumbers otherSecond otherMicrosecond) :
    second = otherSecond ∧ microsecond = otherMicrosecond := by
  have numbers : ∀ s m : Nat, s = (lateNumbers s m).getD 0 0 ∧ m = (lateNumbers s m).getD 1 0 := by
    intro s m
    unfold lateNumbers
    by_cases late : m = 0 <;> by_cases early : s = 0 <;> simp [late, early]
  obtain ⟨seconds, microseconds⟩ := numbers second microsecond
  obtain ⟨otherSeconds, otherMicroseconds⟩ := numbers otherSecond otherMicrosecond
  exact ⟨by rw [seconds, same, ← otherSeconds], by rw [microseconds, same, ← otherMicroseconds]⟩

theorem moment_shown_append (moment : Moment) (rest : List Char) : moment.shown.toList ++ rest =
    "datetime.datetime(".toList ++ ((argumentsText (moment.date.year :: moment.date.month :: moment.date.day ::
      moment.hour :: moment.minute :: lateNumbers moment.second moment.microsecond)).toList ++
      zoneText moment.offset rest) := by
  unfold Moment.shown zoneText lateNumbers
  cases moment.offset with
  | none => simp
  | some minutes => by_cases zero : minutes = 0 <;> simp [zero]

theorem moment_shown_inj {moment other : Moment} {rest more : List Char}
    (same : moment.shown.toList ++ rest = other.shown.toList ++ more) : moment = other ∧ rest = more := by
  rw [moment_shown_append, moment_shown_append] at same
  obtain ⟨numbers, zones⟩ := argumentsText_inj (closes_zoneText _ rest) (closes_zoneText _ more)
    (List.append_cancel_left same)
  obtain ⟨offsets, after⟩ := zoneText_inj zones
  simp only [List.cons.injEq] at numbers
  obtain ⟨years, months, days, hours, minutes, late⟩ := numbers
  obtain ⟨seconds, microseconds⟩ := lateNumbers_inj late
  refine ⟨?_, after⟩
  rcases moment with ⟨⟨year, month, day⟩, hour, minute, second, microsecond, offset⟩
  rcases other with ⟨⟨_, _, _⟩, _, _, _, _, _⟩
  simp only at years months days hours minutes seconds microseconds offsets
  subst years months days hours minutes seconds microseconds offsets
  rfl

end AssemblyInfo.Calendar
