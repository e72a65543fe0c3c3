import TableLexer.Proofs.Text.Decimals
import TableLexer.Proofs.Time.Calendar
import TableLexer.Time.Reader

/-!
# The exact form of a moment

A moment is read back from its exact form, whatever its year and fraction are, and a leap
second as well (`parse?_formatExact`).  Each part of the form is read by the reader of that
part and leaves what follows it: what follows a number with a bound on its digits is no
digit or not looked at, and no mark is a blank.
-/

namespace TableLexer
namespace Timestamp

open Text

theorem isBlank_of_isDigit
    {c : Char}
    (hc : c.isDigit = true) :
    isBlank c = false := by
  have hrange : 48 ≤ c.toNat ∧ c.toNat ≤ 57 := by
    simpa [Char.isDigit, UInt32.le_iff_toNat_le] using hc
  rw [isBlank, CodeRanges.contains, List.any_eq_false]
  simp only [blankRanges, List.forall_mem_cons, List.not_mem_nil, Bool.and_eq_true,
    decide_eq_true_eq, false_implies, implies_true, and_true]
  omega

theorem skipBlank_cons
    {c : Char}
    (hc : isBlank c = false)
    (cs : List Char) :
    skipBlank (c :: cs) = c :: cs := by
  simp [skipBlank, hc]

/-- No blank is skipped in front of digits. -/
theorem skipBlank_digits
    {digits : List Char}
    (hnil : digits ≠ [])
    (hdigits : ∀ c ∈ digits, c.isDigit = true)
    (rest : List Char) :
    skipBlank (digits ++ rest) = digits ++ rest := by
  cases digits with
  | nil =>
      exact absurd rfl hnil
  | cons d digits =>
      exact skipBlank_cons (isBlank_of_isDigit (hdigits d (by simp))) _

/-- Two digits are read as the number they were written for. -/
theorem readField_paddedDecimal
    {n : Nat}
    (hn : n < 100)
    (rest : List Char) :
    readField 2 (paddedDecimal 2 n ++ rest) = some (n, rest) := by
  have hlength : (paddedDecimal 2 n).length = 2 := length_paddedDecimal (by omega) hn
  have hdigits : ∀ c ∈ paddedDecimal 2 n, c.isDigit = true :=
    fun c hc => isDigit_of_mem_paddedDecimal hc
  rw [readField, skipBlank_digits (paddedDecimal_ne_nil 2 n) hdigits,
    readDecimal_append (paddedDecimal_ne_nil 2 n) hdigits (by omega) (Or.inl hlength),
    decimalValue_paddedDecimal]

theorem readMark_cons
    {mark : Char}
    (hmark : isBlank mark = false)
    (rest : List Char) :
    readMark mark (mark :: rest) = some rest := by
  simp [readMark, skipBlank_cons hmark]

/-- The digits of a year that has a sign end in front of the mark behind them. -/
theorem readDecimal_signed
    (n : Nat) (rest : List Char) :
    readDecimal (paddedDecimal 4 n ++ '-' :: rest).length
      (paddedDecimal 4 n ++ '-' :: rest)
      =
    some (n, '-' :: rest) := by
  rw [readDecimal_append (paddedDecimal_ne_nil 4 n)
    (fun c hc => isDigit_of_mem_paddedDecimal hc) (by simp) (Or.inr (by simp)),
    decimalValue_paddedDecimal]

/-- A year without sign is read from its digits. -/
theorem readYear_digits
    {digits rest : List Char}
    (hnil : digits ≠ [])
    (hdigits : ∀ c ∈ digits, c.isDigit = true) :
    readYear (digits ++ rest)
      =
    (readDecimal 4 (digits ++ rest)).map fun (n, rest) => ((n : Int), rest) := by
  rw [readYear, skipBlank_digits hnil hdigits]
  cases digits with
  | nil =>
      exact absurd rfl hnil
  | cons d digits =>
      have hd : d.isDigit = true := hdigits d (by simp)
      split
      · rename_i hcons
        simp at hcons
        rw [hcons.1] at hd
        cases hd
      · rename_i hcons
        simp at hcons
        rw [hcons.1] at hd
        cases hd
      · rfl

theorem readYear_writeYear
    (year : Int) (rest : List Char) :
    readYear (writeYear year ++ '-' :: rest) = some (year, '-' :: rest) := by
  unfold writeYear
  split
  · rename_i hplain
    have hdigits : ∀ c ∈ paddedDecimal 4 year.toNat, c.isDigit = true :=
      fun c hc => isDigit_of_mem_paddedDecimal hc
    have hlength : (paddedDecimal 4 year.toNat).length = 4 :=
      length_paddedDecimal (by omega) (by omega)
    rw [readYear_digits (paddedDecimal_ne_nil _ _) hdigits,
      readDecimal_append (paddedDecimal_ne_nil _ _) hdigits (by omega) (Or.inl hlength),
      decimalValue_paddedDecimal]
    have hyear : (year.toNat : Int) = year := by omega
    simp only [Option.map_some, hyear]
  · rename_i hsigned
    by_cases hnegative : year < 0
    · rw [if_pos hnegative, readYear, List.cons_append, skipBlank_cons (by decide)]
      have hyear : -(year.natAbs : Int) = year := by omega
      simp only [readDecimal_signed, Option.map_some, hyear]
    · rw [if_neg hnegative, readYear, List.cons_append, skipBlank_cons (by decide)]
      have hyear : (year.natAbs : Int) = year := by omega
      simp only [readDecimal_signed, Option.map_some, hyear]

/-- A valid date is read from its year, its month and its day. -/
theorem readDate_written
    {d : Date}
    (hd : d.isValid = true)
    (rest : List Char) :
    readDate (writeYear d.year ++ '-' :: (paddedDecimal 2 d.month ++
      '-' :: (paddedDecimal 2 d.day ++ rest)))
      =
    some (d, rest) := by
  obtain ⟨year, month, day⟩ := d
  have hbounds : month ≤ 12 ∧ day ≤ 31 := by
    simp only [Date.isValid, Bool.and_eq_true, decide_eq_true_eq] at hd
    have hlength : Date.daysInMonth year month ≤ 31 := by
      unfold Date.daysInMonth
      split
      · split <;> omega
      · split <;> omega
    omega
  have hdash : isBlank '-' = false := by decide
  simp [readDate, readYear_writeYear, readMark_cons hdash, readField_paddedDecimal,
    show month < 100 by omega, show day < 100 by omega, hd]

/-- The digits of a fraction of a second are read as what they are worth in nanoseconds. -/
theorem readNanos_paddedDecimal
    {width n : Nat}
    (hwidth : 0 < width ∧ width ≤ 9)
    (hn : n < 10 ^ width)
    (rest : List Char) :
    readNanos ('.' :: (paddedDecimal width n ++ 'Z' :: rest))
      =
    some (n * 10 ^ (9 - width), 'Z' :: rest) := by
  have hlength : (paddedDecimal width n).length = width := length_paddedDecimal hwidth.1 hn
  have htake :
      takeDigits 9 (paddedDecimal width n ++ 'Z' :: rest)
        =
      (paddedDecimal width n, 'Z' :: rest) :=
    takeDigits_append (fun c hc => isDigit_of_mem_paddedDecimal hc) (by omega)
      (Or.inr (by simp))
  rw [readNanos, htake]
  split
  · rename_i hnil
    exact absurd (Prod.mk.inj hnil).1 (paddedDecimal_ne_nil width n)
  · rename_i heq
    obtain ⟨rfl, rfl⟩ := Prod.mk.inj heq
    rw [hlength, decimalValue_paddedDecimal]
    rfl

/-- The fraction is read from its digits; without any, it is none. -/
theorem readNanos_writeFraction
    (t : Timestamp) (rest : List Char) :
    readNanos (t.writeFraction ++ 'Z' :: rest) = some (t.fraction, 'Z' :: rest) := by
  have hfraction : t.fraction < 1000000000 := Nat.mod_lt _ (by omega)
  unfold writeFraction
  split
  · rename_i hzero
    rw [hzero]
    rfl
  · split
    · rw [List.cons_append, readNanos_paddedDecimal (by omega) (by omega)]
      congr 2
      omega
    · split
      · rw [List.cons_append, readNanos_paddedDecimal (by omega) (by omega)]
        congr 2
        omega
      · rw [List.cons_append, readNanos_paddedDecimal (by omega) (by omega)]
        simp

/-- The time of a day is read from hours, minutes and seconds; a leap second is second
60. -/
theorem readTime_written
    (t : Timestamp) (rest : List Char) :
    readTime (paddedDecimal 2 (t.second / 3600) ++
      ':' :: (paddedDecimal 2 (t.second / 60 % 60) ++
        ':' :: (paddedDecimal 2 t.secondOfMinute ++ (t.writeFraction ++ 'Z' :: rest))))
      =
    some ((t.second, t.nano), 'Z' :: rest) := by
  have hsecond := t.second_lt
  have hnano := t.nano_lt
  have hcolon : isBlank ':' = false := by decide
  have hminute : t.secondOfMinute ≤ 60 := by
    unfold secondOfMinute
    omega
  simp only [readTime, readField_paddedDecimal, readMark_cons hcolon,
    readNanos_writeFraction, show t.second / 3600 < 100 by omega,
    show t.second / 60 % 60 < 100 by omega, show t.secondOfMinute < 100 by omega,
    show t.second / 3600 < 24 by omega, show t.second / 60 % 60 < 60 by omega, hminute,
    Option.bind_eq_bind, Option.bind_some, and_self, if_true]
  unfold secondOfMinute fraction
  split
  · congr 3 <;> omega
  · congr 3 <;> omega

/-- A clock in UTC shows the moment itself. -/
theorem ofLocal?_ofDayNumber
    (t : Timestamp) :
    ofLocal? (Date.ofDayNumber t.day) t.second t.nano 0 = some t := by
  have hsecond := t.second_lt
  have hday : t.day + (t.second : Int) / 86400 = t.day := by omega
  have hrest : ((t.second : Int) % 86400).toNat = t.second := by omega
  rw [ofLocal?, Date.toDayNumber_ofDayNumber]
  simp only [Int.sub_zero, hday, hrest]
  rw [if_pos t.day_in_range, mk?, dif_pos t.day_in_range, dif_pos hsecond,
    dif_pos t.nano_lt]

/-- A moment is read back from its exact form. -/
theorem parse?_formatExact
    (t : Timestamp) :
    parse? t.formatExact = some t := by
  have hoffset : readOffset (skipBlank ['Z']) = some (0, []) := by rfl
  have hend : (skipBlank []).isEmpty = true := by rfl
  rw [parse?, formatExact, String.toList_ofList, writeSeconds]
  simp only [List.append_assoc, List.cons_append]
  rw [readDate_written (Date.isValid_ofDayNumber t.day)]
  simp only [Option.bind_eq_bind, Option.bind_some, true_or, if_true,
    readTime_written, hoffset, hend, ofLocal?_ofDayNumber]

end Timestamp
end TableLexer
