import EscapeTime.Proofs.Binary.Nearest

/- Few multiples of a power of ten lie very near to the middle between two numbers of single precision. All
of them are searched at once: the multiples walk around a circle in equal steps, and what they do near
one point of it is again a walk, on the smaller circle that one step covers. -/

set_option autoImplicit false

namespace EscapeTime

-- The points `start + step * count` with `count ≤ most` of a circle of `modulus` points all miss the arc
-- from zero to `width`.
def misses : (fuel modulus step start width most : Nat) → Bool
  | 0, _, _, _, _, _ => false
  | fuel + 1, modulus, step, start, width, most =>
      let rounds := (step * most + start) / modulus
      if start ≤ width then false
      else if rounds = 0 then true
      else if modulus < 2 * step then
        misses fuel modulus (modulus - step) (width + modulus - start) width most
      else
        let back := step - modulus % step
        misses fuel step back ((start + back) % step) width (rounds - 1)

-- Walking backwards from the other end of the arc meets it just as often.
theorem arc_reflect {modulus step start width count : Nat} (short : step ≤ modulus) (inside : start ≤ modulus)
    (hit : (step * count + start) % modulus ≤ width) :
    ((modulus - step) * count + (width + modulus - start)) % modulus ≤ width := by
  have whole := Nat.div_add_mod (step * count + start) modulus
  generalize (step * count + start) / modulus = turns at whole
  generalize (step * count + start) % modulus = place at whole hit
  obtain ⟨rest, rfl⟩ := Nat.exists_eq_add_of_le short
  have few : (step + rest) * turns ≤ (step + rest) * (count + 1) := by
    have bound : step * count ≤ (step + rest) * count := Nat.mul_le_mul_right _ short
    rw [Nat.mul_add_one]
    omega
  have same : rest * count + (width + (step + rest) - start) =
      (width - place) + ((step + rest) * (count + 1) - (step + rest) * turns) := by
    have expand : (step + rest) * (count + 1) = step * count + rest * count + (step + rest) := by ring
    rw [expand] at few ⊢
    omega
  rw [Nat.add_sub_cancel_left, same, ← Nat.mul_sub, Nat.add_mul_mod_self_left]
  exact (Nat.mod_le _ _).trans (Nat.sub_le _ _)

-- Where the walk comes around for the next time depends on the times before in the same way.
theorem arc_descend {modulus step start width count : Nat} (inside : start < modulus) (late : width < start)
    (hit : (step * count + start) % modulus ≤ width) :
    0 < step ∧ ∃ turns, (step * count + start) / modulus = turns + 1 ∧
      ((step - modulus % step) * turns + (start + (step - modulus % step)) % step) % step ≤ width := by
  have whole := Nat.div_add_mod (step * count + start) modulus
  cases times : (step * count + start) / modulus with
  | zero =>
      rw [times, Nat.mul_zero] at whole
      omega
  | succ turns =>
      have some : 0 < step := by
        apply Nat.pos_of_ne_zero
        rintro rfl
        rw [Nat.zero_mul, Nat.zero_add, Nat.div_eq_of_lt inside] at times
        cases times
      refine ⟨some, turns, rfl, ?_⟩
      rw [times] at whole
      generalize (step * count + start) % modulus = place at whole hit
      generalize backward : step - modulus % step = back
      have around : back + modulus ≡ 0 [MOD step] := by
        have part := Nat.mod_lt modulus some
        have split := Nat.div_add_mod modulus step
        have same : back + modulus = step * (modulus / step + 1) := by
          rw [Nat.mul_add_one]
          omega
        rw [same]
        exact Nat.modEq_zero_iff_dvd.mpr (Nat.dvd_mul_right _ _)
      have same : back * turns + (start + back) % step ≡ place [MOD step] := by
        apply Nat.ModEq.add_right_cancel' (modulus * (turns + 1))
        calc back * turns + (start + back) % step + modulus * (turns + 1)
            ≡ back * turns + (start + back) + modulus * (turns + 1) [MOD step] :=
              ((Nat.mod_modEq _ _).add_left _).add_right _
          _ = start + (back + modulus) * (turns + 1) := by ring
          _ ≡ start + 0 * (turns + 1) [MOD step] := (around.mul_right _).add_left _
          _ ≡ step * count + start [MOD step] := by
              rw [Nat.zero_mul, Nat.add_zero, Nat.ModEq, Nat.mul_add_mod]
          _ = place + modulus * (turns + 1) := by rw [← whole, Nat.add_comm]
      exact (le_of_eq same).trans ((Nat.mod_le _ _).trans hit)

theorem misses_sound {fuel modulus step start width most : Nat} (short : step ≤ modulus) (inside : start < modulus)
    (clear : misses fuel modulus step start width most = true) {count : Nat} (few : count ≤ most) :
    width < (step * count + start) % modulus := by
  induction fuel generalizing modulus step start most count with
  | zero => cases clear
  | succ fuel ih =>
      simp only [misses] at clear
      by_contra hit
      rw [Nat.not_lt] at hit
      split at clear
      · cases clear
      · rename_i late
        rw [Nat.not_le] at late
        obtain ⟨some, turns, times, again⟩ := arc_descend inside late hit
        have rounds : turns + 1 ≤ (step * most + start) / modulus := by
          rw [← times]
          gcongr
        split at clear
        · omega
        · split at clear
          · exact absurd (arc_reflect short inside.le hit)
              (Nat.not_le.mpr (ih (Nat.sub_le _ _) (by omega) clear few))
          · exact absurd again (Nat.not_le.mpr
              (ih (Nat.sub_le _ _) (Nat.mod_lt _ some) clear (Nat.le_sub_one_of_lt rounds)))

namespace Ratio

-- No multiple of a unit by a count from `first` to `first + most` is as near as `2 ^ (-30)` to the middle
-- between two whole numbers, unless it is the middle.
def avoidsMiddle (unit : Ratio) (first most : Nat) : Bool :=
  let modulus := 2 ^ 30 * unit.den
  let step := 2 ^ 30 * unit.num % modulus
  let middle := 2 ^ 29 * unit.den
  let missesArc := fun shift => misses 64 modulus step ((step * first + shift) % modulus) (unit.den - 1) most
  missesArc (modulus - middle + unit.den) && missesArc (modulus - middle - 1)

theorem misses_multiple {modulus factor first most shift width : Nat} (some : 0 < modulus)
    (clear : misses 64 modulus (factor % modulus) ((factor % modulus * first + shift) % modulus) width most = true)
    {count : Nat} (low : first ≤ count) (high : count ≤ first + most) :
    width < (factor * count + shift) % modulus := by
  obtain ⟨more, rfl⟩ := Nat.exists_eq_add_of_le low
  have missed := misses_sound (Nat.mod_lt factor some).le (Nat.mod_lt _ some) clear (Nat.le_of_add_le_add_left high)
  have same : factor % modulus * more + (factor % modulus * first + shift) % modulus ≡
      factor * (first + more) + shift [MOD modulus] := by
    calc factor % modulus * more + (factor % modulus * first + shift) % modulus
        ≡ factor % modulus * more + (factor % modulus * first + shift) [MOD modulus] :=
          (Nat.mod_modEq _ _).add_left _
      _ = factor % modulus * (first + more) + shift := by ring
      _ ≡ factor * (first + more) + shift [MOD modulus] := ((Nat.mod_modEq _ _).mul_right _).add_right _
  rwa [show _ = _ from same] at missed

-- The same for the numerators: distances are counted in units of the smaller of the two arcs.
theorem avoids_middle_whole {unit : Ratio} {first most : Nat} (proper : 0 < unit.den)
    (clear : unit.avoidsMiddle first most = true) {count whole : Nat} (low : first ≤ count)
    (high : count ≤ first + most)
    (least : 2 ^ 30 * unit.den * whole + 2 ^ 29 * unit.den ≤ 2 ^ 30 * unit.num * count + unit.den)
    (largest : 2 ^ 30 * unit.num * count ≤ 2 ^ 30 * unit.den * whole + 2 ^ 29 * unit.den + unit.den) :
    2 ^ 30 * unit.num * count = 2 ^ 30 * unit.den * whole + 2 ^ 29 * unit.den := by
  simp only [avoidsMiddle, Bool.and_eq_true] at clear
  have some : 0 < 2 ^ 30 * unit.den := by omega
  have before := misses_multiple some clear.1 low high
  have behind := misses_multiple some clear.2 low high
  have next : 2 ^ 30 * unit.den * (whole + 1) = 2 ^ 30 * unit.den * whole + 2 ^ 30 * unit.den := Nat.mul_add_one _ _
  generalize 2 ^ 30 * unit.num * count = point at before behind least largest ⊢
  rcases Nat.lt_trichotomy point (2 ^ 30 * unit.den * whole + 2 ^ 29 * unit.den) with less | same | more
  · have place : point + (2 ^ 30 * unit.den - 2 ^ 29 * unit.den + unit.den) =
        2 ^ 30 * unit.den * (whole + 1) +
          (point + unit.den - (2 ^ 30 * unit.den * whole + 2 ^ 29 * unit.den)) := by omega
    rw [place, Nat.mul_add_mod, Nat.mod_eq_of_lt (by omega)] at before
    omega
  · exact same
  · have place : point + (2 ^ 30 * unit.den - 2 ^ 29 * unit.den - 1) =
        2 ^ 30 * unit.den * (whole + 1) +
          (point - 1 - (2 ^ 30 * unit.den * whole + 2 ^ 29 * unit.den)) := by omega
    rw [place, Nat.mul_add_mod, Nat.mod_eq_of_lt (by omega)] at behind
    omega

theorem avoids_middle_sound {unit : Ratio} {first most : Nat} (proper : 0 < unit.den)
    (clear : unit.avoidsMiddle first most = true) {count whole : Nat} (low : first ≤ count)
    (high : count ≤ first + most) (near : |count * unit.value - (whole + 1 / 2)| ≤ 2 ^ (-30 : Int)) :
    count * unit.value = whole + 1 / 2 := by
  have bottom : (0 : ℚ) < unit.den := by exact_mod_cast proper
  have scaled : (count * unit.value - (whole + 1 / 2)) * (2 ^ 30 * unit.den) =
      ((2 ^ 30 * unit.num * count : Nat) : ℚ) - (2 ^ 30 * unit.den * whole + 2 ^ 29 * unit.den : Nat) := by
    rw [value]
    push_cast
    field_simp
    ring
  have unscaled : (2 : ℚ) ^ (-30 : Int) * (2 ^ 30 * unit.den) = unit.den := by
    rw [zpow_neg]
    field_simp
  obtain ⟨below, above⟩ := abs_le.mp near
  have lower := mul_le_mul_of_nonneg_right below (show (0 : ℚ) ≤ 2 ^ 30 * unit.den by positivity)
  have upper := mul_le_mul_of_nonneg_right above (show (0 : ℚ) ≤ 2 ^ 30 * unit.den by positivity)
  rw [scaled] at lower upper
  rw [unscaled] at upper
  rw [neg_mul, unscaled] at lower
  have least : 2 ^ 30 * unit.den * whole + 2 ^ 29 * unit.den ≤ 2 ^ 30 * unit.num * count + unit.den := by
    have sum : ((2 ^ 30 * unit.den * whole + 2 ^ 29 * unit.den : Nat) : ℚ) ≤
        (2 ^ 30 * unit.num * count : Nat) + unit.den := by linarith
    exact_mod_cast sum
  have largest : 2 ^ 30 * unit.num * count ≤ 2 ^ 30 * unit.den * whole + 2 ^ 29 * unit.den + unit.den := by
    have sum : ((2 ^ 30 * unit.num * count : Nat) : ℚ) ≤
        (2 ^ 30 * unit.den * whole + 2 ^ 29 * unit.den : Nat) + unit.den := by linarith
    exact_mod_cast sum
  have same := avoids_middle_whole proper clear low high least largest
  rw [same, sub_self, mul_eq_zero, or_iff_left (by positivity)] at scaled
  exact sub_eq_zero.mp scaled

end Ratio

-- The power `10 ^ (column - 44)` in units of `2 ^ (row - 149)`. The rows are the exponents of single precision,
-- and the columns the powers of ten that its numbers reach.
def tenInUnits (row column : Nat) : Ratio :=
  ⟨10 ^ column * 2 ^ 149, 10 ^ 44 * 2 ^ row⟩

-- Powers of ten that are clearly below the unit or above all numbers of the row are not looked at.
def isSparse (row column : Nat) : Bool :=
  let ten := tenInUnits row column
  Nat.blt (2 ^ 29 * ten.num) ((2 ^ 29 - 1) * ten.den) || Nat.blt (2 ^ 24 * ten.den) ten.num ||
    ten.avoidsMiddle 0 (2 ^ 24 * ten.den / ten.num)

theorem is_sparse_all :
    ((List.range 254).all fun row => (List.range 83).all fun column =>
      row == 42 && column == 12 || isSparse row column) = true := by
  decide +kernel

-- In one place of the table one multiple is nearer to a middle than all others.
theorem is_sparse_except :
    (tenInUnits 42 12).avoidsMiddle 0 7038530 = true ∧ (tenInUnits 42 12).avoidsMiddle 7038532 (2 ^ 24) = true := by
  decide +kernel

theorem middle_of_near {row column count whole : Nat} (inRow : row < 254) (inColumn : column < 83)
    (large : 2 ^ 29 - 1 ≤ 2 ^ 29 * (tenInUnits row column).value) (some : 0 < count)
    (bounded : count * (tenInUnits row column).value ≤ 2 ^ 24)
    (near : |count * (tenInUnits row column).value - (whole + 1 / 2)| ≤ 2 ^ (-30 : Int)) :
    count * (tenInUnits row column).value = whole + 1 / 2 ∨ (row = 42 ∧ column = 12 ∧ count = 7038531) := by
  have proper : 0 < (tenInUnits row column).den := by
    rw [tenInUnits]
    positivity
  have filled : 0 < (tenInUnits row column).num := by
    rw [tenInUnits]
    positivity
  have bottom : (0 : ℚ) < (tenInUnits row column).den := by exact_mod_cast proper
  have top : (0 : ℚ) < (tenInUnits row column).num := by exact_mod_cast filled
  have product : count * (tenInUnits row column).num ≤ 2 ^ 24 * (tenInUnits row column).den := by
    rw [Ratio.value, ← mul_div_assoc, div_le_iff₀ bottom] at bounded
    exact_mod_cast bounded
  have few : count ≤ 2 ^ 24 * (tenInUnits row column).den / (tenInUnits row column).num :=
    (Nat.le_div_iff_mul_le filled).mpr product
  by_cases special : row = 42 ∧ column = 12
  · obtain ⟨rfl, rfl⟩ := special
    have most : 2 ^ 24 * (tenInUnits 42 12).den / (tenInUnits 42 12).num ≤ 2 ^ 24 := by decide +kernel
    rcases Nat.lt_trichotomy count 7038531 with less | same | more
    · exact .inl (Ratio.avoids_middle_sound proper is_sparse_except.1 (Nat.zero_le _) (by omega) near)
    · exact .inr ⟨rfl, rfl, same⟩
    · exact .inl (Ratio.avoids_middle_sound proper is_sparse_except.2 (by omega) (by omega) near)
  · have checked := List.all_eq_true.mp (List.all_eq_true.mp is_sparse_all row (List.mem_range.mpr inRow)) column
      (List.mem_range.mpr inColumn)
    simp only [Bool.or_eq_true, Bool.and_eq_true, beq_iff_eq, special, false_or, isSparse, Nat.blt_eq] at checked
    rcases checked with (small | huge) | clear
    · rw [Ratio.value, ← mul_div_assoc, le_div_iff₀ bottom] at large
      have less : ((2 ^ 29 * (tenInUnits row column).num : Nat) : ℚ) < ((2 ^ 29 - 1) * (tenInUnits row column).den : Nat) := by
        exact_mod_cast small
      push_cast at less
      norm_num at less large
      linarith
    · have more : (tenInUnits row column).num ≤ count * (tenInUnits row column).num :=
        Nat.le_mul_of_pos_left _ some
      omega
    · exact .inl (Ratio.avoids_middle_sound proper clear (Nat.zero_le _) (by omega) near)

end EscapeTime
