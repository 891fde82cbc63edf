import Mathlib.Algebra.GroupWithZero.Nat
import ShapeQuery.Binary64.Shortest

/-!
# Rounding and the shortest decimal

Rounding depends on the rational alone, not on the fraction that it is given by
(`roundUnits_mul_left`), and it leaves the numbers where they are (`roundUnits_units`). The digits
and the exponent of a decimal can be traded for each other accordingly (`ofDecimal_mul_ten_pow`).

The search for the shortest decimal of a number tries each candidate by rounding it, and falls back
to the exact value, which rounds to the number as well. So the decimal that a finite number is
written with always rounds back to the number, with its sign (`ofDecimal_shortestDecimal`). Whether
the exact value is ever needed plays no part.
-/

namespace ShapeQuery

/-! ### Rounding to whole numbers -/

/-- Rounding to a whole number adds at most one. -/
theorem roundHalfEven_le (num den : Nat) : roundHalfEven num den ≤ num / den + 1 := by
  have hmod : num / den % 2 < 2 := Nat.mod_lt _ (by decide)
  simp only [roundHalfEven]
  split
  · exact Nat.le_succ _
  · split
    · exact Nat.le_refl _
    · omega

/-- A fraction may be expanded before it is rounded. -/
theorem roundHalfEven_mul_left {k : Nat} (hk : 0 < k) (num den : Nat) :
    roundHalfEven (k * num) (k * den) = roundHalfEven num den := by
  have hbelow : 2 * (k * (num % den)) < k * den ↔ 2 * (num % den) < den := by
    rw [Nat.mul_left_comm, Nat.mul_lt_mul_left hk]
  have habove : k * den < 2 * (k * (num % den)) ↔ den < 2 * (num % den) := by
    rw [Nat.mul_left_comm, Nat.mul_lt_mul_left hk]
  simp only [roundHalfEven, Nat.mul_div_mul_left _ _ hk, Nat.mul_mod_mul_left, hbelow, habove]

theorem roundHalfEven_one (n : Nat) : roundHalfEven n 1 = n := by
  simp [roundHalfEven, Nat.mod_one]

namespace Binary64

/-! ### Sign and magnitude -/

theorem magnitude_ofMagnitude {negative : Bool} {m : Nat} (h : m < signBit) :
    (ofMagnitude negative m).magnitude = m := by
  have hm : m < 0x8000000000000000 := h
  cases negative with
  | true =>
    show UInt64.toNat (UInt64.ofNat (0x8000000000000000 + m)) % 0x8000000000000000 = m
    rw [UInt64.toNat_ofNat']
    omega
  | false =>
    show UInt64.toNat (UInt64.ofNat m) % 0x8000000000000000 = m
    rw [UInt64.toNat_ofNat']
    omega

theorem isFinite_ofMagnitude {negative : Bool} {m : Nat} (h : m < infinityMagnitude) :
    (ofMagnitude negative m).isFinite = true := by
  have hm : m < signBit := Nat.lt_trans h (by decide)
  rw [isFinite, magnitude_ofMagnitude hm]
  exact decide_eq_true h

/-- A number is its sign and its magnitude. -/
theorem ofMagnitude_magnitude (x : Binary64) : ofMagnitude x.isNegative x.magnitude = x := by
  obtain ⟨bits⟩ := x
  have hlt : bits.toNat < 0x10000000000000000 := bits.toNat_lt
  have hbits : ∀ n, n = bits.toNat → Binary64.mk (UInt64.ofNat n) = ⟨bits⟩ := by
    intro n hn
    rw [hn, UInt64.ofNat_toNat]
  refine hbits _ ?_
  cases hsign : isNegative ⟨bits⟩ with
  | true =>
    have hle : 0x8000000000000000 ≤ bits.toNat := of_decide_eq_true hsign
    show 0x8000000000000000 + bits.toNat % 0x8000000000000000 = bits.toNat
    omega
  | false =>
    have hnot : ¬ 0x8000000000000000 ≤ bits.toNat := of_decide_eq_false hsign
    show bits.toNat % 0x8000000000000000 = bits.toNat
    omega

/-! ### Rounding to magnitudes -/

/-- A number of few enough bits is rounded to a finite magnitude: the exponent stays low, and the
significand has at most fifty-three bits or is the next power of two. -/
theorem roundUnits_lt {num : Nat} (hlog : num.log2 ≤ 2000) :
    roundUnits num 1 < infinityMagnitude := by
  have hsignificand : num / 2 ^ (num.log2 - 52) < 2 ^ 53 := by
    rw [Nat.div_lt_iff_lt_mul (Nat.two_pow_pos _), ← Nat.pow_add]
    exact Nat.lt_of_lt_of_le Nat.lt_log2_self (Nat.pow_le_pow_right (by decide) (by omega))
  -- rounding can carry into the next power of two, which the exponent has room for
  have hround := roundHalfEven_le num (2 ^ (num.log2 - 52))
  simp only [roundUnits, Nat.div_one, Nat.shiftLeft_eq, Nat.one_mul]
  refine Nat.lt_of_le_of_lt (Nat.min_le_left _ _) ?_
  simp only [hiddenBit, infinityMagnitude]
  omega

theorem roundUnits_shiftLeft_lt {m s : Nat} (hs : s ≤ 1900) (h : m < 0x10000000000000000) :
    roundUnits (m <<< s) 1 < infinityMagnitude := by
  refine roundUnits_lt ?_
  rcases Nat.eq_zero_or_pos (m <<< s) with hzero | hpos
  · rw [hzero]
    exact Nat.zero_le _
  · have hlt : m <<< s < 2 ^ (64 + s) := by
      rw [Nat.shiftLeft_eq, Nat.pow_add]
      exact Nat.mul_lt_mul_of_pos_right h (Nat.two_pow_pos s)
    have hlog := (Nat.log2_lt (Nat.ne_of_gt hpos)).2 hlt
    omega

/-- A whole number of at most sixty-four bits is rounded to a finite number. -/
theorem isFinite_ofInt {n : Int} (h : n.natAbs < 0x10000000000000000) :
    (ofInt n).isFinite = true :=
  isFinite_ofMagnitude (roundUnits_shiftLeft_lt (by decide) h)

theorem roundUnits_le (num den : Nat) : roundUnits num den ≤ infinityMagnitude :=
  Nat.min_le_right _ _

theorem roundUnits_zero (den : Nat) : roundUnits 0 den = 0 := by
  simp [roundUnits, roundHalfEven]

theorem roundUnits_mul_left {k : Nat} (hk : 0 < k) (num den : Nat) :
    roundUnits (k * num) (k * den) = roundUnits num den := by
  simp only [roundUnits, Nat.mul_div_mul_left _ _ hk, Nat.shiftLeft_eq, Nat.mul_assoc,
    roundHalfEven_mul_left hk]

/-- The significand of a finite number and its position, put together, are the magnitude. A
significand of fifty-three bits has its leading bit counted in the exponent field. -/
theorem scale_mul_add_significand (x : Binary64) :
    x.scale * hiddenBit + x.significand = x.magnitude := by
  have hfields := Nat.div_add_mod x.magnitude hiddenBit
  simp only [scale, significand]
  split
  case isTrue hsubnormal => rw [Nat.div_eq_of_lt hsubnormal]; simp
  case isFalse hnormal =>
    have hexponent : 1 ≤ x.magnitude / hiddenBit :=
      (Nat.one_le_div_iff (by decide)).2 (Nat.le_of_not_lt hnormal)
    rw [Nat.sub_mul, Nat.mul_comm]
    have := Nat.mul_le_mul_left hiddenBit hexponent
    omega

/-- The bits that rounding drops are those below the significand of the number. -/
theorem log2_units (x : Binary64) : x.units.log2 - 52 = x.scale := by
  have hmod : x.magnitude % hiddenBit < 2 ^ 52 := Nat.mod_lt _ (by decide)
  by_cases hsubnormal : x.magnitude < hiddenBit
  · have hscale : x.scale = 0 := by rw [scale, Nat.div_eq_of_lt hsubnormal]
    have hlt : x.units < 2 ^ 52 := by
      rw [units, hscale, significand, if_pos hsubnormal]
      exact hsubnormal
    rcases Nat.eq_zero_or_pos x.units with hzero | hpos
    · rw [hzero, hscale]
      rfl
    · have := (Nat.log2_lt (Nat.ne_of_gt hpos)).2 hlt
      omega
  · have hunits : x.units = (x.magnitude % hiddenBit + 2 ^ 52) * 2 ^ x.scale := by
      rw [units, Nat.shiftLeft_eq, significand, if_neg hsubnormal]
      rfl
    have hlog : x.units.log2 = 52 + x.scale := by
      have hpos : 0 < 2 ^ x.scale := Nat.two_pow_pos _
      rw [hunits, Nat.log2_eq_iff (Nat.mul_ne_zero (by omega) (Nat.ne_of_gt hpos))]
      constructor
      · rw [Nat.pow_add]
        exact Nat.mul_le_mul_right _ (Nat.le_add_left _ _)
      · rw [Nat.add_right_comm, Nat.pow_add]
        exact Nat.mul_lt_mul_of_pos_right (by omega) hpos
    omega

/-- A finite number is rounded to itself. -/
theorem roundUnits_units {x : Binary64} (h : x.isFinite = true) {k : Nat} (hk : 0 < k) :
    roundUnits (k * x.units) k = x.magnitude := by
  have hlt : x.magnitude < infinityMagnitude := of_decide_eq_true h
  have hround : roundHalfEven x.units (1 <<< x.scale) = x.significand := by
    have := roundHalfEven_mul_left (Nat.two_pow_pos x.scale) x.significand 1
    rw [roundHalfEven_one, Nat.mul_one] at this
    rw [units, Nat.shiftLeft_eq, Nat.shiftLeft_eq, Nat.one_mul, Nat.mul_comm, this]
  have hscaled := roundUnits_mul_left hk x.units 1
  rw [Nat.mul_one] at hscaled
  rw [hscaled]
  simp only [roundUnits, Nat.div_one]
  rw [log2_units, hround, scale_mul_add_significand]
  exact Nat.min_eq_left (Nat.le_of_lt hlt)

theorem scale_le {x : Binary64} (h : x.isFinite = true) : x.scale ≤ 2045 := by
  have hlt : x.magnitude < 0x7ff * hiddenBit := of_decide_eq_true h
  have hexponent := (Nat.div_lt_iff_lt_mul (by decide)).2 hlt
  rw [scale]
  omega

theorem units_lt {x : Binary64} {n : Nat} (h : x.scale ≤ n) : x.units < 2 ^ (53 + n) := by
  have hmod : x.magnitude % hiddenBit < 2 ^ 52 := Nat.mod_lt _ (by decide)
  have hsignificand : x.significand < 2 ^ 53 := by
    rw [significand]
    split
    case isTrue hsubnormal => exact Nat.lt_trans hsubnormal (by decide)
    case isFalse => exact Nat.add_lt_add_right hmod _
  rw [units, Nat.shiftLeft_eq, Nat.pow_add]
  exact Nat.mul_lt_mul_of_lt_of_le hsignificand (Nat.pow_le_pow_right (by decide) h)
    (Nat.two_pow_pos _)

/-! ### Rounding decimals -/

theorem ofRatio_mul_left {k : Nat} (hk : 0 < k) (negative : Bool) (num den : Nat) :
    ofRatio negative (k * num) (k * den) = ofRatio negative num den := by
  simp only [ofRatio, Nat.shiftLeft_eq, Nat.mul_assoc, roundUnits_mul_left hk]

theorem lt_decimalLength_iff {n k : Nat} (hk : 0 < k) : k < decimalLength n ↔ 10 ^ k ≤ n := by
  have hle : decimalLength n ≤ k ↔ n < 10 ^ k := Nat.length_toDigits_le_iff (by decide) hk
  rw [← Nat.not_le, hle, Nat.not_lt]

theorem decimalLength_mul_ten {n : Nat} (hn : n ≠ 0) :
    decimalLength (10 * n) = decimalLength n + 1 := by
  rw [decimalLength, Nat.toDigits_of_base_le (by decide) (by omega),
    Nat.mul_div_cancel_left _ (by decide), List.length_append]
  rfl

/-- A trailing zero digit may be dropped if the exponent makes up for it. -/
theorem ofDecimal_mul_ten (negative : Bool) (digits : Nat) (exponent : Int) :
    ofDecimal negative (10 * digits) exponent = ofDecimal negative digits (exponent + 1) := by
  by_cases hzero : digits = 0
  · simp only [ofDecimal, hzero, Nat.mul_zero, true_or, if_true]
  have htop : (decimalLength (10 * digits) : Int) + exponent =
      decimalLength digits + (exponent + 1) := by
    rw [decimalLength_mul_ten hzero]
    omega
  have hratio : ofRatio negative (10 * digits * Nat.pow 10 exponent.toNat)
        (Nat.pow 10 (-exponent).toNat) =
      ofRatio negative (digits * Nat.pow 10 (exponent + 1).toNat)
        (Nat.pow 10 (-(exponent + 1)).toNat) := by
    rcases Int.lt_or_le exponent 0 with hneg | hnonneg
    · have hsucc : (-exponent).toNat = (-(exponent + 1)).toNat + 1 := by omega
      have hnum : exponent.toNat = 0 := by omega
      have hnum' : (exponent + 1).toNat = 0 := by omega
      rw [hsucc, hnum, hnum', Nat.pow_eq, Nat.pow_eq, Nat.pow_eq, Nat.pow_succ', Nat.pow_zero,
        Nat.mul_one, Nat.mul_one, ofRatio_mul_left (by decide)]
    · have hsucc : (exponent + 1).toNat = exponent.toNat + 1 := by omega
      have hden : (-exponent).toNat = 0 := by omega
      have hden' : (-(exponent + 1)).toNat = 0 := by omega
      rw [hsucc, hden, hden', Nat.pow_eq, Nat.pow_eq, Nat.pow_eq, Nat.pow_succ', Nat.mul_left_comm,
        Nat.mul_assoc]
  have hnonzero : 10 * digits ≠ 0 := by omega
  simp only [ofDecimal, hzero, hnonzero, htop, hratio]

/-- Trailing zero digits may be dropped if the exponent makes up for them. -/
theorem ofDecimal_mul_ten_pow (negative : Bool) (digits k : Nat) (exponent : Int) :
    ofDecimal negative (10 ^ k * digits) exponent = ofDecimal negative digits (exponent + k) := by
  induction k generalizing exponent with
  | zero => rw [Nat.pow_zero, Nat.one_mul, Int.natCast_zero, Int.add_zero]
  | succ k ih =>
    rw [Nat.pow_succ', Nat.mul_assoc, ofDecimal_mul_ten, ih]
    congr 1
    omega

/-- A decimal of which some places lie behind the point, and that is written out. -/
theorem ofDecimal_neg {negative : Bool} {digits places : Nat} (hdigits : 0 < digits)
    (hlong : places ≤ decimalLength digits + 330) (hshort : decimalLength digits ≤ places + 310) :
    ofDecimal negative digits (-(places : Int)) = ofRatio negative digits (10 ^ places) := by
  have hwritten : ¬ (digits = 0 ∨ (decimalLength digits : Int) + -(places : Int) < -330) := by
    omega
  have hfits : ¬ 310 < (decimalLength digits : Int) + -(places : Int) := by omega
  have hnum : (-(places : Int)).toNat = 0 := by omega
  have hden : (- -(places : Int)).toNat = places := by omega
  rw [ofDecimal, if_neg hwritten, if_neg hfits, hnum, hden, Nat.pow_eq, Nat.pow_eq, Nat.pow_zero,
    Nat.mul_one]

/-- The sign plays no part in rounding a decimal. -/
theorem exists_ofDecimal_eq (digits : Nat) (exponent : Int) :
    ∃ m ≤ infinityMagnitude, ∀ negative,
      ofDecimal negative digits exponent = ofMagnitude negative m := by
  simp only [ofDecimal]
  split
  · exact ⟨0, Nat.zero_le _, fun _ ↦ rfl⟩
  · split
    · exact ⟨infinityMagnitude, Nat.le_refl _, fun _ ↦ rfl⟩
    · exact ⟨_, roundUnits_le _ _, fun _ ↦ rfl⟩

end Binary64

/-! ### The shortest decimal -/

theorem Decimal.toBinary64_mk (digits : Nat) (exponent : Int) :
    (Decimal.mk digits exponent).toBinary64 = Binary64.ofDecimal false digits exponent := rfl

theorem Decimal.toBinary64_trim (d : Decimal) : d.trim.toBinary64 = d.toBinary64 := by
  induction d using Decimal.trim.induct with
  | case1 d h ih =>
    have hdigits : 10 * (d.digits / 10) = d.digits := by omega
    rw [Decimal.trim, dif_pos h, ih, toBinary64_mk, ← Binary64.ofDecimal_mul_ten, hdigits,
      toBinary64]
  | case2 d h => rw [Decimal.trim, dif_neg h]

namespace Binary64

variable {x : Binary64}

/-- The exact value of a finite number is within the decimals that are written out. -/
theorem decimalLength_exact (h : x.isFinite = true) (hunits : 0 < x.units) :
    743 < decimalLength (x.units * Nat.pow 5 1074) ∧
      ¬ 1384 < decimalLength (x.units * Nat.pow 5 1074) := by
  have hpos : 0 < Nat.pow 5 1074 := by decide +kernel
  have hleast : 10 ^ 743 ≤ Nat.pow 5 1074 := by decide +kernel
  have hgreatest : 2 ^ (53 + 2045) * Nat.pow 5 1074 < 10 ^ 1384 := by decide +kernel
  have hlt := units_lt (scale_le h)
  rw [lt_decimalLength_iff (by decide), lt_decimalLength_iff (by decide)]
  constructor
  · exact Nat.le_trans hleast (Nat.le_mul_of_pos_left _ hunits)
  · exact Nat.not_le.2 (Nat.lt_trans (Nat.mul_lt_mul_of_pos_right hlt hpos) hgreatest)

/-- The exact value of a finite number rounds to the number. -/
theorem toBinary64_exactDecimal (h : x.isFinite = true) :
    x.exactDecimal.toBinary64 = x.abs := by
  have hexponent : (-1074 : Int) = -((1074 : Nat) : Int) := rfl
  rw [exactDecimal, Decimal.toBinary64_mk, hexponent, abs]
  rcases Nat.eq_zero_or_pos x.units with hzero | hunits
  · have hmagnitude : x.magnitude = 0 := by
      rw [← roundUnits_units h Nat.one_pos, hzero, Nat.mul_zero, roundUnits_zero]
    have hdigits : x.units * Nat.pow 5 1074 = 0 := Nat.mul_eq_zero.2 (.inl hzero)
    rw [ofDecimal, if_pos (.inl hdigits), hmagnitude]
  · obtain ⟨hlong, hshort⟩ := decimalLength_exact h hunits
    -- from here on the number of places is a variable, so that no power is computed
    generalize hn : 1074 = n at hlong hshort ⊢
    have hpow : x.units * 5 ^ n * 2 ^ n = 10 ^ n * x.units := by
      rw [Nat.mul_assoc, ← Nat.mul_pow, Nat.mul_comm]
    have hdigits : 0 < x.units * Nat.pow 5 n := Nat.mul_pos hunits (Nat.pow_pos (by decide))
    rw [ofDecimal_neg hdigits (by omega) (by omega), ofRatio, hn, Nat.shiftLeft_eq, Nat.pow_eq,
      hpow, roundUnits_units h (Nat.pow_pos (by decide))]

/-- The decimal that a finite number is written with rounds to the number, up to its sign. -/
theorem toBinary64_shortestDecimal (h : x.isFinite = true) :
    x.shortestDecimal.toBinary64 = x.abs := by
  rw [shortestDecimal, Decimal.toBinary64_trim]
  cases hfound : (List.range 17).findSome? fun n : Nat ↦
      x.nearestDecimal? (x.leadingExponent - n) with
  | none => exact toBinary64_exactDecimal h
  | some d =>
    -- a candidate is taken only if it passes this very test
    obtain ⟨n, -, hn⟩ := List.exists_of_findSome?_eq_some hfound
    rw [nearestDecimal?] at hn
    have htest := List.find?_some hn
    exact of_decide_eq_true htest

/-- The decimal that a finite number is written with rounds to the number, if it is given the sign
of the number. -/
theorem ofDecimal_shortestDecimal (h : x.isFinite = true) :
    ofDecimal x.isNegative x.shortestDecimal.digits x.shortestDecimal.exponent = x := by
  obtain ⟨m, hle, hround⟩ := exists_ofDecimal_eq x.shortestDecimal.digits x.shortestDecimal.exponent
  have hlt : m < signBit := Nat.lt_of_le_of_lt hle (by decide)
  have hpositive := toBinary64_shortestDecimal h
  rw [Decimal.toBinary64, hround, abs] at hpositive
  have hmagnitude : x.magnitude < signBit := Nat.mod_lt _ (by decide)
  have hm : m = x.magnitude := by
    have := congrArg magnitude hpositive
    rwa [magnitude_ofMagnitude hlt, magnitude_ofMagnitude hmagnitude] at this
  rw [hround, hm, ofMagnitude_magnitude]

/-- A number other than zero is written with digits other than zero. -/
theorem digits_shortestDecimal_ne_zero (h : x.isFinite = true) (hzero : x.isZero = false) :
    x.shortestDecimal.digits ≠ 0 := by
  intro hdigits
  have hround := ofDecimal_shortestDecimal h
  rw [ofDecimal, if_pos (.inl hdigits)] at hround
  have hmagnitude : x.magnitude = 0 := by
    rw [← hround]
    exact magnitude_ofMagnitude (by decide)
  exact absurd hmagnitude (of_decide_eq_false hzero)

end Binary64

end ShapeQuery
