import ShapeQuery.Json.Reader
import ShapeQuery.Json.Text
import ShapeQuery.Proofs.Binary64.Rounding

/-!
# Reading numbers back

The text of a number is read as the number (`Json.number?_text`), a whole number as the same whole
number and a double-precision number as the same pattern, the two zeros included. So two numbers
with the same text are the same number.

What the text of a double-precision number says is a decimal, laid out in one of four ways: the
point may stand before the digits, after them or among them, or there is an exponent. Whichever it
is, the reader gets the same decimal (`unsignedNumber?_decimalText`), though not always with the
same digits, since zeros that fill up to the point are read as digits. That this decimal is rounded
to the number is a fact about the shortest decimal, not about its layout.
-/

namespace ShapeQuery

namespace Json

/-! ### Runs of digits -/

/-- A run of decimal digits. -/
def IsDigits (digits : List Char) : Prop := ∀ c ∈ digits, c.isDigit = true

/-- Digits that may stand before the point: there are some, and a zero comes first only if it stands
alone. -/
structure IsWhole (digits : List Char) : Prop where
  isDigits : IsDigits digits
  plain : ¬ (digits = [] ∨ (digits.head? = some '0' ∧ 1 < digits.length))

theorem isDigits_toDigits (n : Nat) : IsDigits (Nat.toDigits 10 n) := fun _ hc ↦
  Nat.isDigit_of_mem_toDigits (by decide) (by decide) hc

theorem isDigits_zeros (k : Nat) : IsDigits (List.replicate k '0') := by
  intro c hc
  rw [List.eq_of_mem_replicate hc]
  rfl

theorem IsDigits.append {ds es : List Char} (hd : IsDigits ds) (he : IsDigits es) :
    IsDigits (ds ++ es) := List.forall_mem_append.2 ⟨hd, he⟩

theorem digitsValue_toDigits (n : Nat) : digitsValue (Nat.toDigits 10 n) = n :=
  Nat.ofDigitChars_ten_toDigits

theorem digitsValue_append_zeros (digits : List Char) (k : Nat) :
    digitsValue (digits ++ List.replicate k '0') = 10 ^ k * digitsValue digits := by
  have happend := Nat.ofDigitChars_append (b := 10) (l := digits) (m := List.replicate k '0') 0
  rwa [Nat.ofDigitChars_replicate_zero] at happend

theorem digitsValue_zeros_append (k : Nat) (digits : List Char) :
    digitsValue (List.replicate k '0' ++ digits) = digitsValue digits := by
  have happend := Nat.ofDigitChars_append (b := 10) (l := List.replicate k '0') (m := digits) 0
  rwa [Nat.ofDigitChars_replicate_zero, Nat.mul_zero] at happend

/-- The digits of a number other than zero do not start with one. -/
theorem exists_head?_toDigits {n : Nat} (hn : n ≠ 0) :
    ∃ c, (Nat.toDigits 10 n).head? = some c ∧ c ≠ '0' := by
  induction n using Nat.strongRecOn with
  | ind n ih =>
    rw [Nat.toDigits_eq_if (by decide)]
    split
    · exact ⟨_, rfl, fun hzero ↦ hn (Nat.digitChar_eq_zero.1 hzero)⟩
    · obtain ⟨c, hc, hne⟩ := ih (n / 10) (by omega) (by omega)
      exact ⟨c, by rw [List.head?_append, hc, Option.some_or], hne⟩

theorem isWhole_of_head? {digits : List Char} {c : Char} (h : IsDigits digits)
    (hhead : digits.head? = some c) (hc : c ≠ '0') : IsWhole digits := by
  refine ⟨h, ?_⟩
  rintro (rfl | ⟨hzero, -⟩)
  · cases hhead
  · exact hc (Option.some.inj (hhead.symm.trans hzero))

theorem isWhole_zero : IsWhole ['0'] := ⟨by simp [IsDigits], by decide⟩

theorem isWhole_toDigits (n : Nat) : IsWhole (Nat.toDigits 10 n) := by
  by_cases hn : n = 0
  · subst hn
    exact isWhole_zero
  · obtain ⟨c, hhead, hc⟩ := exists_head?_toDigits hn
    exact isWhole_of_head? (isDigits_toDigits n) hhead hc

/-! ### What the reader makes of the parts of a number -/

section Parts

variable {whole places : List Char}

theorem takeWhile_isDigit {digits : List Char} (h : IsDigits digits) (rest : List Char)
    (hrest : ∀ c ∈ rest.head?, c.isDigit = false) :
    (digits ++ rest).takeWhile Char.isDigit = digits ∧
      (digits ++ rest).dropWhile Char.isDigit = rest := by
  rw [List.takeWhile_append_of_pos h, List.dropWhile_append_of_pos h]
  cases rest with
  | nil => exact ⟨List.append_nil _, rfl⟩
  | cons c rest =>
    have hc : ¬ c.isDigit = true := by rw [hrest c rfl]; decide
    rw [List.takeWhile_cons_of_neg hc, List.dropWhile_cons_of_neg hc, List.append_nil]
    exact ⟨rfl, rfl⟩

theorem unsignedNumber?_whole (negative : Bool) (hwhole : IsWhole whole) :
    unsignedNumber? negative whole =
      if negative = true ∧ digitsValue whole = 0 then Number.ofBinary64? Binary64.negZero
      else Number.ofInt? (if negative then -(digitsValue whole : Int) else digitsValue whole) := by
  obtain ⟨htake, hdrop⟩ := takeWhile_isDigit hwhole.isDigits [] (by simp)
  rw [List.append_nil] at htake hdrop
  rw [unsignedNumber?, htake, if_neg hwhole.plain, hdrop]

/-- A number with a point. -/
theorem unsignedNumber?_point (negative : Bool) (hwhole : IsWhole whole) (hplaces : IsDigits places)
    (hne : places ≠ []) (tail : List Char) (htail : ∀ c ∈ tail.head?, c.isDigit = false) :
    unsignedNumber? negative (whole ++ '.' :: (places ++ tail)) =
      (exponentValue? tail).bind fun exponent ↦ Number.ofBinary64?
        (Binary64.ofDecimal negative (digitsValue (whole ++ places))
          (exponent - places.length)) := by
  have hpoint : ∀ c ∈ ('.' :: (places ++ tail)).head?, c.isDigit = false := by
    rintro c ⟨⟩
    rfl
  obtain ⟨htake, hdrop⟩ := takeWhile_isDigit hwhole.isDigits _ hpoint
  obtain ⟨htake', hdrop'⟩ := takeWhile_isDigit hplaces _ htail
  rw [unsignedNumber?, htake, if_neg hwhole.plain, hdrop]
  simp only [htake', if_neg hne, hdrop']
  rfl

theorem unsignedNumber?_places (negative : Bool) (hwhole : IsWhole whole)
    (hplaces : IsDigits places) (hne : places ≠ []) :
    unsignedNumber? negative (whole ++ '.' :: places) = Number.ofBinary64?
      (Binary64.ofDecimal negative (digitsValue (whole ++ places)) (-places.length)) := by
  have hread := unsignedNumber?_point negative hwhole hplaces hne [] (by simp)
  rwa [List.append_nil, exponentValue?, Option.bind_some, Int.zero_sub] at hread

/-- A number with an exponent and no point. -/
theorem unsignedNumber?_exponent (negative : Bool) (hwhole : IsWhole whole) (tail : List Char) :
    unsignedNumber? negative (whole ++ 'e' :: tail) =
      (exponentValue? ('e' :: tail)).bind fun exponent ↦ Number.ofBinary64?
        (Binary64.ofDecimal negative (digitsValue whole) exponent) := by
  have hmark : ∀ c ∈ ('e' :: tail).head?, c.isDigit = false := by
    rintro c ⟨⟩
    rfl
  obtain ⟨htake, hdrop⟩ := takeWhile_isDigit hwhole.isDigits _ hmark
  rw [unsignedNumber?, htake, if_neg hwhole.plain, hdrop]
  rfl

/-- The exponent of a number, read. -/
theorem exponentValue?_signed (e : Int) :
    exponentValue? ('e' :: (if e < 0 then '-' else '+') :: Nat.toDigits 10 e.natAbs) = some e := by
  have hexponent : ('e' = 'e' ∨ 'e' = 'E') ∧ Nat.toDigits 10 e.natAbs ≠ [] ∧
      (Nat.toDigits 10 e.natAbs).all Char.isDigit = true :=
    ⟨.inl rfl, Nat.toDigits_ne_nil, List.all_eq_true.2 (isDigits_toDigits _)⟩
  by_cases hneg : e < 0
  · have hread : exponentValue? ('e' :: '-' :: Nat.toDigits 10 e.natAbs) =
        some (-(digitsValue (Nat.toDigits 10 e.natAbs) : Int)) := if_pos hexponent
    rw [if_pos hneg, hread, digitsValue_toDigits]
    congr 1
    omega
  · have hread : exponentValue? ('e' :: '+' :: Nat.toDigits 10 e.natAbs) =
        some (digitsValue (Nat.toDigits 10 e.natAbs) : Int) := if_pos hexponent
    rw [if_neg hneg, hread, digitsValue_toDigits]
    congr 1
    omega

end Parts

/-! ### The layouts of a decimal -/

section Layouts

variable (negative : Bool) {n : Nat} (hn : n ≠ 0)

include hn

/-- Digits with a point before, after or among them are read as the digits, with the exponent that
the place of the point stands for. -/
theorem unsignedNumber?_positional (point : Int) :
    unsignedNumber? negative (Binary64.positional (Nat.toDigits 10 n) point) =
      Number.ofBinary64?
        (Binary64.ofDecimal negative n (point - (Nat.toDigits 10 n).length)) := by
  obtain ⟨c, hhead, hc⟩ := exists_head?_toDigits hn
  have hvalue := digitsValue_toDigits n
  have hdigits := isDigits_toDigits n
  have hne : Nat.toDigits 10 n ≠ [] := Nat.toDigits_ne_nil
  generalize Nat.toDigits 10 n = digits at hhead hvalue hdigits hne ⊢
  simp only [Binary64.positional]
  split
  case isTrue hbefore =>
    -- the zeros after the point are places, but they do not show in the value
    have hplaces := (isDigits_zeros (-point).toNat).append hdigits
    have hread := unsignedNumber?_places negative isWhole_zero hplaces (by simp [hne])
    have hzeros := digitsValue_zeros_append ((-point).toNat + 1) digits
    rw [List.replicate_succ, List.cons_append] at hzeros
    rw [List.singleton_append, List.singleton_append, hzeros, hvalue] at hread
    rw [hread, List.length_append, List.length_replicate]
    congr 2
    omega
  case isFalse hafter =>
    split
    case isTrue hlong =>
      -- the zeros before the point show in the value, and so does the one behind it
      generalize hk : point.toNat - digits.length = k
      have hwhole : IsWhole (digits ++ List.replicate k '0') :=
        isWhole_of_head? (hdigits.append (isDigits_zeros _))
          (by rw [List.head?_append, hhead, Option.some_or]) hc
      have hread := unsignedNumber?_places negative hwhole (isDigits_zeros 1) (by decide)
      have hzeros : digitsValue (digits ++ List.replicate k '0' ++ List.replicate 1 '0') =
          10 ^ (k + 1) * n := by
        rw [List.append_assoc, List.replicate_append_replicate, digitsValue_append_zeros, hvalue]
      rw [hzeros, Binary64.ofDecimal_mul_ten_pow, List.length_replicate] at hread
      refine hread.trans ?_
      congr 2
      omega
    case isFalse hamong =>
      have hwhole : IsWhole (digits.take point.toNat) :=
        isWhole_of_head? (fun c hc ↦ hdigits c (List.mem_of_mem_take hc))
          (by rw [List.head?_take, if_neg (by omega), hhead]) hc
      have hplaces : IsDigits (digits.drop point.toNat) := fun c hc ↦
        hdigits c (List.mem_of_mem_drop hc)
      have hread := unsignedNumber?_places negative hwhole hplaces (by
        rw [ne_eq, List.drop_eq_nil_iff]
        omega)
      rw [List.take_append_drop, hvalue, List.length_drop] at hread
      rw [hread]
      congr 2
      omega

/-- Digits in scientific notation are read as the digits, with the exponent that counts from the
last one. -/
theorem unsignedNumber?_scientific (exponent : Int) :
    unsignedNumber? negative (Binary64.scientific (Nat.toDigits 10 n) exponent) =
      Number.ofBinary64? (Binary64.ofDecimal negative n
        (exponent - (Nat.toDigits 10 n).length + 1)) := by
  obtain ⟨c, hhead, hc⟩ := exists_head?_toDigits hn
  have hvalue := digitsValue_toDigits n
  have hdigits := isDigits_toDigits n
  generalize Nat.toDigits 10 n = digits at hhead hvalue hdigits ⊢
  have htail := exponentValue?_signed exponent
  match digits with
  | [] => cases hhead
  | [first] =>
    have hread := unsignedNumber?_exponent negative (isWhole_of_head? hdigits hhead hc)
      ((if exponent < 0 then '-' else '+') :: Nat.toDigits 10 exponent.natAbs)
    rw [htail, Option.bind_some, hvalue] at hread
    refine hread.trans ?_
    congr 2
    simp only [List.length_singleton]
    omega
  | first :: second :: rest =>
    have hwhole : IsWhole [first] :=
      isWhole_of_head? (fun c hc ↦ hdigits c (by simp_all)) hhead hc
    have hread := unsignedNumber?_point negative hwhole
      (fun c hc ↦ hdigits c (List.mem_cons_of_mem _ hc)) (List.cons_ne_nil second rest)
      ('e' :: (if exponent < 0 then '-' else '+') :: Nat.toDigits 10 exponent.natAbs)
      (by simp)
    rw [htail, Option.bind_some, List.singleton_append, List.singleton_append, hvalue] at hread
    refine hread.trans ?_
    congr 2
    simp only [List.length_cons]
    omega

end Layouts

/-- Whatever its layout, the text of a decimal is read as the decimal. -/
theorem unsignedNumber?_decimalText (negative : Bool) {d : Decimal} (hd : d.digits ≠ 0) :
    unsignedNumber? negative (Binary64.decimalText d) =
      Number.ofBinary64? (Binary64.ofDecimal negative d.digits d.exponent) := by
  simp only [Binary64.decimalText]
  split
  · rw [unsignedNumber?_positional negative hd]
    congr 2
    omega
  · rw [unsignedNumber?_scientific negative hd]
    congr 2
    omega

/-! ### Numbers -/

/-- A text without a sign, once it is read as a number, is read so with its sign in front. -/
theorem number?_of_unsignedNumber? {negative : Bool} {text : List Char} {n : Number}
    (h : unsignedNumber? negative text = some n) :
    number? (if negative then '-' :: text else text) = some n := by
  cases negative with
  | true => exact h
  | false =>
    show number? text = some n
    rw [number?.eq_def]
    split
    case h_1 rest =>
      -- what starts with a sign is not an unsigned number
      rw [unsignedNumber?, if_pos (.inl rfl)] at h
      cases h
    case h_2 => exact h

/-- The text of a finite number is read as that number. -/
theorem number?_binary64 (x : Binary64) (h : x.isFinite = true) :
    number? x.text = some (.real x h) := by
  have hreal : Number.ofBinary64? x = some (.real x h) := dif_pos h
  rw [Binary64.text]
  refine number?_of_unsignedNumber? ?_
  cases hzero : x.isZero with
  | true =>
    have hmagnitude : x.magnitude = 0 := of_decide_eq_true hzero
    have hx := x.ofMagnitude_magnitude
    rw [hmagnitude] at hx
    have hread := unsignedNumber?_places x.isNegative isWhole_zero (isDigits_zeros 1) (by decide)
    have hvalue : digitsValue (['0'] ++ List.replicate 1 '0') = 0 := rfl
    rw [hvalue, Binary64.ofDecimal, if_pos (.inl rfl), hx, hreal] at hread
    exact hread
  | false =>
    have hdigits := Binary64.digits_shortestDecimal_ne_zero h hzero
    rw [if_neg Bool.false_ne_true, unsignedNumber?_decimalText _ hdigits,
      Binary64.ofDecimal_shortestDecimal h, hreal]

/-- The text of a whole number is read as that number. -/
theorem number?_integer (n : Int) (h : -0x8000000000000000 ≤ n ∧ n ≤ 0xffffffffffffffff) :
    number? (Number.integer n h).text = some (.integer n h) := by
  have hinteger : Number.ofInt? n = some (.integer n h) := dif_pos h
  have htext : (Number.integer n h).text =
      if decide (n < 0) then '-' :: Nat.toDigits 10 n.natAbs else Nat.toDigits 10 n.natAbs := by
    by_cases hneg : n < 0 <;> simp [Number.text, hneg]
  rw [htext]
  refine number?_of_unsignedNumber? ?_
  have hvalue : (if decide (n < 0) = true then -(n.natAbs : Int) else n.natAbs) = n := by
    by_cases hneg : n < 0
    · rw [if_pos (decide_eq_true hneg)]
      omega
    · rw [if_neg (fun h ↦ hneg (of_decide_eq_true h))]
      omega
  rw [unsignedNumber?_whole _ (isWhole_toDigits _), digitsValue_toDigits, hvalue, hinteger]
  refine if_neg ?_
  rintro ⟨hneg, hzero⟩
  have := of_decide_eq_true hneg
  omega

/-- The text of a number is read as the number. -/
theorem number?_text (n : Number) : number? n.text = some n := by
  cases n with
  | integer n fits => exact number?_integer n fits
  | real x finite => exact number?_binary64 x finite

/-! ### Characters -/

/-- The characters that the texts of numbers are made of. -/
def isNumeric (c : Char) : Bool := c.isDigit || c == '-' || c == '+' || c == '.' || c == 'e'

theorem IsDigits.all_isNumeric {digits : List Char} (h : IsDigits digits) :
    digits.all isNumeric = true := by
  refine List.all_eq_true.2 fun c hc ↦ ?_
  simp [isNumeric, h c hc]

theorem all_isNumeric_positional {digits : List Char} (h : IsDigits digits) (point : Int) :
    (Binary64.positional digits point).all isNumeric = true := by
  have hzeros := fun k ↦ (isDigits_zeros k).all_isNumeric
  have htake : IsDigits (digits.take point.toNat) := fun c hc ↦ h c (List.mem_of_mem_take hc)
  have hdrop : IsDigits (digits.drop point.toNat) := fun c hc ↦ h c (List.mem_of_mem_drop hc)
  simp only [Binary64.positional]
  split
  · rw [List.all_cons, List.all_cons, List.all_append, hzeros, h.all_isNumeric]
    rfl
  · split
    · rw [List.all_append, List.all_append, hzeros, h.all_isNumeric]
      rfl
    · rw [List.all_append, List.all_cons, htake.all_isNumeric, hdrop.all_isNumeric]
      rfl

theorem all_isNumeric_scientific {digits : List Char} (h : IsDigits digits) (exponent : Int) :
    (Binary64.scientific digits exponent).all isNumeric = true := by
  have hsign : isNumeric (if exponent < 0 then '-' else '+') = true := by split <;> rfl
  have hexponent : ('e' :: (if exponent < 0 then '-' else '+') ::
      Nat.toDigits 10 exponent.natAbs).all isNumeric = true := by
    rw [List.all_cons, List.all_cons, hsign, (isDigits_toDigits _).all_isNumeric]
    rfl
  have hdigits := h.all_isNumeric
  rw [Binary64.scientific.eq_def, List.all_append, hexponent, Bool.and_true]
  split
  case h_1 first second rest =>
    rw [List.all_cons] at hdigits ⊢
    rw [List.all_cons, Bool.and_left_comm, hdigits]
    rfl
  case h_2 => exact hdigits

theorem all_isNumeric_text (n : Number) : n.text.all isNumeric = true := by
  cases n with
  | integer n fits =>
    rw [Number.text, List.all_append, (isDigits_toDigits _).all_isNumeric, Bool.and_true]
    split <;> rfl
  | real x finite =>
    have hunsigned : (if x.isZero = true then ['0', '.', '0']
        else Binary64.decimalText x.shortestDecimal).all isNumeric = true := by
      split
      · rfl
      · simp only [Binary64.decimalText]
        split
        · exact all_isNumeric_positional (isDigits_toDigits _) _
        · exact all_isNumeric_scientific (isDigits_toDigits _) _
    simp only [Number.text, Binary64.text]
    split
    · rw [List.all_cons, hunsigned]
      rfl
    · exact hunsigned

end Json

end ShapeQuery
