import TableLexer.Proofs.Numeric.Rounding

/-!
# Sizes and their units

A size is divided by 1024 until the number is below 1024 or the largest unit is reached
(`exists_showInUnit`), and only then rounded to hundredths.  So KB and MB are shown for the
sizes from one such unit up to the next one, but the number in front of them can be
1024.00: this is so for the sizes that are no further than half a hundredth from the next
unit, and for no others (`humanSize_in_unit`).
-/

namespace TableLexer

/-! ## Dividing -/

/-- Each step of the division takes the next unit.  All steps together lead to the last
unit of which there is a whole one, unless the units come to their end. -/
theorem exists_showInUnit
    (q : Quotient)
    (first : String)
    (others : List String) :
    ∃ power unit,
      (first :: others)[power]? = some unit ∧
      showInUnit q (first :: others)
        =
      (⟨q.num, q.den * 1024 ^ power⟩ : Quotient).twoDecimals ++ " " ++ unit ∧
      (power ≠ 0 → q.den * 1024 ^ power ≤ q.num) ∧
      (power < others.length → q.num < q.den * 1024 ^ (power + 1)) := by
  induction others generalizing q first with
  | nil =>
      exact ⟨0, first, rfl, by simp [showInUnit], by simp, by simp⟩
  | cons second others ih =>
      by_cases hmore : q.den * 1024 ≤ q.num
      · obtain ⟨power, unit, hunit, hshown, hleast, hmost⟩ :=
          ih ⟨q.num, q.den * 1024⟩ second
        have hpow (k : Nat) : q.den * 1024 ^ (k + 1) = q.den * 1024 * 1024 ^ k := by
          rw [Nat.pow_succ', ← Nat.mul_assoc]
        refine ⟨power + 1, unit, hunit, ?_, fun _ => ?_, fun hpower => ?_⟩
        · rw [showInUnit, if_pos hmore, hshown, hpow]
        · rw [hpow]
          by_cases hzero : power = 0
          · simpa [hzero] using hmore
          · exact hleast hzero
        · rw [hpow]
          exact hmost (Nat.lt_of_succ_lt_succ hpower)
      · refine ⟨0, first, rfl, ?_, by simp, fun _ => by simpa using hmore⟩
        rw [showInUnit, if_neg hmore, Nat.pow_zero, Nat.mul_one]

/-- The unit of a size is the last one of which there is a whole one.  Between the first
and the last unit the hundredths of the exact size are shown: there a size is a double as
it is. -/
theorem exists_humanSize
    (bytes : Nat) :
    ∃ power unit number,
      sizeUnits[power]? = some unit ∧
      humanSize bytes = number ++ " " ++ unit ∧
      (power ≠ 0 → 1024 ^ power ≤ bytes) ∧
      (power < 3 → bytes < 1024 ^ (power + 1)) ∧
      (power ≠ 0 → power < 3 →
        number = showHundredths (⟨bytes * 100, 1024 ^ power⟩ : Quotient).round) := by
  by_cases hbytes : bytes < 1024
  · refine ⟨0, "B", toString bytes, rfl, ?_, by simp, fun _ => hbytes, by simp⟩
    rw [humanSize, if_pos hbytes, String.append_assoc]
    rfl
  obtain ⟨power, unit, hunit, hshown, hleast, hmost⟩ :=
    exists_showInUnit (Quotient.ofNat bytes).toDouble "B" ["KB", "MB", "GB"]
  have hsize : humanSize bytes = _ := (if_neg hbytes).trans hshown
  refine ⟨power, unit, _, hunit, hsize, ?_⟩
  rcases Quotient.exists_toDouble_ofNat (by omega : bytes ≠ 0) with
    ⟨c, hc, hdouble⟩ | ⟨hlarge, m, hm, hdouble⟩
  · rw [hdouble] at hleast hmost ⊢
    simp only [Nat.mul_comm c, Nat.mul_le_mul_right_iff hc,
      Nat.mul_lt_mul_right hc] at hleast hmost
    refine ⟨hleast, hmost, fun _ _ => ?_⟩
    rw [Quotient.twoDecimals, Nat.mul_right_comm, Nat.mul_comm c,
      Quotient.round_mul_right (Nat.pow_pos (by decide)) hc]
  · have hlast : ¬ power < 3 := by
      intro hless
      have hnum : m < 1 * 1024 ^ (power + 1) := by simpa only [hdouble] using hmost hless
      have hpow : 1024 ^ (power + 1) ≤ 1024 ^ 3 := Nat.pow_le_pow_right (by decide) hless
      omega
    have hpower : power < 4 := (List.getElem?_eq_some_iff.1 hunit).1
    obtain rfl : power = 3 := by omega
    exact ⟨fun _ => by omega, fun h => absurd h hlast, fun _ h => absurd h hlast⟩

/-! ## The number -/

/-- What is at least one unit and less than 1024 has from 100 to 102400 hundredths, and it
has the most of them from the middle of the last two on. -/
theorem round_hundredths
    {bytes unitBytes : Nat}
    (hleast : unitBytes ≤ bytes)
    (hmost : bytes < 1024 * unitBytes) :
    100 ≤ (⟨bytes * 100, unitBytes⟩ : Quotient).round ∧
      (⟨bytes * 100, unitBytes⟩ : Quotient).round ≤ 102400 ∧
      ((⟨bytes * 100, unitBytes⟩ : Quotient).round = 102400 ↔
        204799 * unitBytes ≤ 200 * bytes) := by
  have hpos : 0 < unitBytes := by omega
  have habove (k : Nat) := Quotient.lt_round_iff (bytes * 100) hpos k
  have hleast' := habove 99
  have hnext := habove 102399
  have hmost' := habove 102400
  omega

/-! ## The unit behind the number -/

/-- The last space of a text parts it in one way. -/
theorem append_space_inj
    {number number' unit unit' : List Char}
    (hunit : ' ' ∉ unit)
    (hunit' : ' ' ∉ unit')
    (h : number ++ ' ' :: unit = number' ++ ' ' :: unit') :
    number = number' ∧ unit = unit' := by
  rcases List.append_eq_append_iff.1 h with ⟨between, rfl, htail⟩ | ⟨between, rfl, htail⟩
  · cases between with
    | nil =>
        exact ⟨(List.append_nil number).symm, (List.cons.inj htail).2⟩
    | cons c between =>
        exact absurd (by rw [(List.cons.inj htail).2]; simp) hunit
  · cases between with
    | nil =>
        exact ⟨List.append_nil number', (List.cons.inj htail).2.symm⟩
    | cons c between =>
        exact absurd (by rw [(List.cons.inj htail).2]; simp) hunit'

/-- A text shows a number in one unit only. -/
theorem eq_of_shown
    {number number' unit unit' : String}
    {power power' : Nat}
    (hunit : sizeUnits[power]? = some unit)
    (hunit' : sizeUnits[power']? = some unit')
    (h : number ++ " " ++ unit = number' ++ " " ++ unit') :
    number = number' ∧ power = power' := by
  have hspace : ∀ u ∈ sizeUnits, ' ' ∉ u.toList := by decide
  have hlist := congrArg String.toList h
  simp only [String.toList_append, List.append_assoc] at hlist
  obtain ⟨hnumber, hunits⟩ :=
    append_space_inj (hspace unit (List.mem_of_getElem? hunit))
      (hspace unit' (List.mem_of_getElem? hunit')) hlist
  have hlength : power < sizeUnits.length := (List.getElem?_eq_some_iff.1 hunit).1
  constructor
  · exact String.toList_inj.1 hnumber
  · apply (List.getElem?_inj hlength (by decide)).1
    rw [hunit, hunit', String.toList_inj.1 hunits]

/-- Only one of the units with a next one has the size between itself and the next one. -/
theorem power_eq_of_between
    {bytes power power' : Nat}
    (hleast' : power' ≠ 0 → 1024 ^ power' ≤ bytes)
    (hmost' : power' < 3 → bytes < 1024 ^ (power' + 1))
    (hlast : power < 3)
    (hleast : 1024 ^ power ≤ bytes)
    (hmost : bytes < 1024 ^ (power + 1)) :
    power = power' := by
  have hpow {k l : Nat} (h : k ≤ l) : 1024 ^ k ≤ 1024 ^ l :=
    Nat.pow_le_pow_right (by decide) h
  rcases Nat.lt_trichotomy power power' with hlt | heq | hgt
  · have habove := hleast' (by omega)
    have hstep := hpow (Nat.succ_le_of_lt hlt)
    omega
  · exact heq
  · have hbelow := hmost' (by omega)
    have hstep := hpow (Nat.succ_le_of_lt hgt)
    omega

/-- KB and MB are shown for the sizes from one such unit up to the next one.  The number in
front of them is the size to the nearest hundredth, from 1.00 to 1024.00, and it is 1024.00
exactly for the sizes that are no further than half a hundredth from the next unit. -/
theorem humanSize_in_unit
    (bytes power : Nat)
    (unit : String)
    (hunit : (power, unit) ∈ [(1, "KB"), (2, "MB")]) :
    ((∃ number, humanSize bytes = number ++ " " ++ unit) ↔
      1024 ^ power ≤ bytes ∧ bytes < 1024 ^ (power + 1)) ∧
    ∀ number, humanSize bytes = number ++ " " ++ unit →
      ∃ hundredths : Nat,
        number = showHundredths hundredths ∧
        2 * hundredths * 1024 ^ power ≤ 200 * bytes + 1024 ^ power ∧
        200 * bytes ≤ (2 * hundredths + 1) * 1024 ^ power ∧
        100 ≤ hundredths ∧
        hundredths ≤ 102400 ∧
        (hundredths = 102400 ↔ 204799 * 1024 ^ power ≤ 200 * bytes) := by
  have hplace : sizeUnits[power]? = some unit ∧ power ≠ 0 ∧ power < 3 := by
    rcases List.mem_cons.1 hunit with h | h
    · cases h
      decide
    · cases List.mem_singleton.1 h
      decide
  obtain ⟨hunit, hzero, hlast⟩ := hplace
  obtain ⟨power', unit', number', hunit', hsize, hleast, hmost, hnumber⟩ :=
    exists_humanSize bytes
  have hshown {number : String} (h : humanSize bytes = number ++ " " ++ unit) :
      number = number' ∧ power = power' :=
    eq_of_shown hunit hunit' (h.symm.trans hsize)
  refine ⟨⟨?_, ?_⟩, ?_⟩
  · rintro ⟨number, h⟩
    obtain ⟨-, rfl⟩ := hshown h
    exact ⟨hleast hzero, hmost hlast⟩
  · rintro ⟨hfrom, hbelow⟩
    obtain rfl := power_eq_of_between hleast hmost hlast hfrom hbelow
    exact ⟨number', by rw [hsize, Option.some.inj (hunit.symm.trans hunit')]⟩
  · intro number h
    obtain ⟨rfl, rfl⟩ := hshown h
    have hnext : bytes < 1024 * 1024 ^ power := by
      rw [← Nat.pow_succ']
      exact hmost hlast
    obtain ⟨habove, hbelow⟩ :=
      Quotient.round_bounds (bytes * 100) (Nat.pow_pos (by decide) : 0 < 1024 ^ power)
    exact ⟨_, hnumber hzero hlast, by omega, by omega,
      round_hundredths (hleast hzero) hnext⟩

/-- The last size in KB is shown as 1024.00 of them. -/
theorem humanSize_in_unit_last_kilo :
    (1, "KB") ∈ [(1, "KB"), (2, "MB")] ∧
    humanSize 1048575 = "1024.00" ++ " " ++ "KB" ∧
    ∃ hundredths : Nat,
      "1024.00" = showHundredths hundredths ∧
      hundredths = 102400 := by
  have hshown : humanSize 1048575 = "1024.00" ++ " " ++ "KB" := by decide
  obtain ⟨-, hnumber⟩ := humanSize_in_unit 1048575 1 "KB" (by decide)
  obtain ⟨hundredths, htext, -, -, -, -, hlast⟩ := hnumber "1024.00" hshown
  exact ⟨by decide, hshown, hundredths, htext, hlast.2 (by decide)⟩

/-- The number in front of KB need not be below 1024.00. -/
theorem humanSize_reaches_next_unit :
    ¬ ∀ (bytes hundredths : Nat) (unit : String),
      bytes < 2 ^ 64 → unit = "KB" ∨ unit = "MB" →
      humanSize bytes = showHundredths hundredths ++ " " ++ unit →
      100 ≤ hundredths ∧ hundredths < 102400 := by
  intro h
  have hlast := h 1048575 102400 "KB" (by decide) (Or.inl rfl) (by decide)
  omega

end TableLexer
