import ShaderGraph.Proofs.Decimal.Rounding
import ShaderGraph.Proofs.Decimal.Text
import ShaderGraph.Yaml.Scalar

/-! A plain scalar with the digits of a number is read as the number. -/
namespace ShaderGraph.Yaml.Scalar

open Binary64

theorem digitIn?_of_isDigit {c : Char} (digit : c.isDigit) :
    digitIn? 10 c = some (c.toNat - '0'.toNat) := by
  obtain ⟨low, high⟩ := Char.isDigit_iff_toNat.mp digit
  have inside : '0' ≤ c ∧ c ≤ '9' := ⟨low, high⟩
  have small : c.toNat - '0'.toNat < 10 := by
    have : '9'.toNat = '0'.toNat + 9 := rfl
    omega
  rw [digitIn?, if_pos inside]
  exact if_pos small

theorem foldlM_digits (cs : List Char) (digits : ∀ c ∈ cs, c.isDigit) (n : Nat) :
    cs.foldlM (fun n c => (10 * n + ·) <$> digitIn? 10 c) n = some (Nat.ofDigitChars 10 cs n) := by
  induction cs generalizing n with
  | nil => rfl
  | cons c cs ih =>
    obtain ⟨first, rest⟩ := List.forall_mem_cons.mp digits
    rw [List.foldlM_cons, digitIn?_of_isDigit first, Nat.ofDigitChars_cons]
    exact ih rest _

theorem digits?_chars (d : Digits) : digits? 10 d.chars = some d.value := by
  rw [digits?, if_neg (by simpa using d.nonempty)]
  exact foldlM_digits d.chars d.isDigit 0

/-- Digits end at a point. -/
theorem digits?_point (whole : Digits) (rest : List Char) :
    digits? 10 (whole.chars ++ '.' :: rest) = none := by
  rw [digits?, if_neg (by simp), List.foldlM_append, foldlM_digits _ whole.isDigit]
  rfl

def Opens (text : String) : Prop := (splitSign text.toList).2.head?.any Char.isDigit

instance (text : String) : Decidable (Opens text) := inferInstanceAs (Decidable (_ = true))

/-- A number with its sign, and what follows its first digits. -/
def numeral (negative : Bool) (d : Digits) (rest : String) : String :=
  signText negative ++ (d.text ++ rest)

section Numeral

variable (negative : Bool) (d : Digits) (rest : String)

theorem toList_numeral : (numeral negative d rest).toList =
    if negative then '-' :: (d.chars ++ rest.toList) else d.chars ++ rest.toList := by
  cases negative <;> simp [numeral, signText, Digits.text]

theorem splitSign_numeral : splitSign (numeral negative d rest).toList =
    (if negative then some '-' else none, d.chars ++ rest.toList) := by
  rw [toList_numeral]
  cases negative with
  | true => rfl
  | false =>
    obtain ⟨c, cs, split⟩ := List.exists_cons_of_ne_nil d.nonempty
    have digit : c.isDigit := d.isDigit c (split ▸ List.mem_cons_self)
    rw [split]
    simp only [Bool.false_eq_true, if_false, List.cons_append]
    unfold splitSign
    split <;> simp_all

theorem opens_numeral : Opens (numeral negative d rest) := by
  obtain ⟨c, cs, split⟩ := List.exists_cons_of_ne_nil d.nonempty
  have digit : c.isDigit := d.isDigit c (split ▸ List.mem_cons_self)
  simp [Opens, splitSign_numeral, split, digit]

end Numeral

theorem toString_eq_numeral (n : Int) : toString n = numeral (n < 0) (.ofNat n.natAbs) "" := by
  rw [toString_int, numeral, String.append_empty]

theorem text_eq_numeral (t : PointedText) :
    t.text = numeral t.negative t.whole ("." ++ t.fraction.text) := by
  rw [PointedText.text, numeral, String.append_assoc, String.append_assoc]

theorem opens_toString (n : Int) : Opens (toString n) := by
  rw [toString_eq_numeral]
  exact opens_numeral ..

theorem opens_text (t : PointedText) : Opens t.text := by
  rw [text_eq_numeral]
  exact opens_numeral ..

def words : List String :=
  ["", "~", "null", "Null", "NULL", "true", "True", "TRUE", "false", "False", "FALSE", ".inf", ".Inf",
    ".INF", "-.inf", "-.Inf", "-.INF", ".nan", ".NaN", ".NAN"]

theorem not_opens_of_mem : ∀ word ∈ words, ¬Opens word := by
  decide

theorem contains_eq_false {text : String} (opens : Opens text) {some : List String}
    (among : some ⊆ words) : some.contains text = false := by
  rw [List.contains_eq_mem]
  exact decide_eq_false fun held => not_opens_of_mem text (among held) opens

/-- A text with a digit behind its sign is a number, or else a string. -/
theorem resolve_of_opens {text : String} (opens : Opens text) :
    resolve text = match integer text with
      | .fitting n => .ok (.number (.int n))
      | .wide => .error .wideInteger
      | .other =>
        match if isPaddedDigits text then none else float? text with
        | some x => .ok (.number (.float x))
        | none => .ok (.string text) := by
  have full : text.isEmpty = false := by
    rw [Bool.eq_false_iff]
    intro empty
    rw [String.isEmpty_iff.mp empty] at opens
    exact not_opens_of_mem "" (by decide) opens
  have notNull : isNull text = false := contains_eq_false opens (by decide)
  have notBool : bool? text = none := by
    rw [bool?, contains_eq_false opens (by decide), contains_eq_false opens (by decide)]
    rfl
  rw [resolve, full, notNull, notBool]
  rfl

/-- Digits and a point name no other base than ten. -/
theorem magnitude?_plain {text : String} {cs : List Char} (plain : ∀ c ∈ cs, c.isDigit ∨ c = '.') :
    magnitude? text cs = if isPaddedDigits text then none else digits? 10 cs := by
  unfold magnitude?
  split
  case h_1 | h_2 | h_3 => exact absurd (plain _ (.tail _ (.head _))) (by decide)
  case h_4 => rfl

theorem splitSign_toString (n : Int) : splitSign (toString n).toList =
    (if n < 0 then some '-' else none, (Digits.ofNat n.natAbs).chars) := by
  rw [toString_eq_numeral, splitSign_numeral]
  simp

theorem isPaddedDigits_toString (n : Int) : isPaddedDigits (toString n) = false := by
  rw [isPaddedDigits, splitSign_toString]
  split
  case h_1 c cs padded =>
    replace padded : (Digits.ofNat n.natAbs).chars = '0' :: c :: cs := padded
    have alone := Digits.canonical_ofNat n.natAbs (by rw [padded]; rfl)
    exact absurd (padded.symm.trans alone) (by simp)
  case h_2 => rfl

/-- Integers of 64 bits are read from their digits. -/
theorem integer_toString {n : Int} (low : -2 ^ 63 ≤ n) (high : n < 2 ^ 64) :
    integer (toString n) = .fitting n := by
  have magnitude : magnitude? (toString n) (Digits.ofNat n.natAbs).chars = some n.natAbs := by
    rw [magnitude?_plain fun c held => .inl (Digits.isDigit _ c held), isPaddedDigits_toString,
      digits?_chars, Digits.value_ofNat]
    rfl
  rw [integer, splitSign_toString]
  simp only [magnitude]
  by_cases negative : n < 0
  · have fits : n.natAbs ≤ limit true 64 := by
      rw [limit, if_pos rfl, Nat.pow_eq]
      omega
    simp [negative, fits, abs_of_neg]
  · have fits : n.natAbs ≤ limit false 64 := by
      rw [limit, if_neg Bool.false_ne_true, Nat.pow_eq]
      omega
    simp [negative, fits, abs_of_nonneg (not_lt.mp negative)]

theorem splitSign_text (t : PointedText) : splitSign t.text.toList =
    (if t.negative then some '-' else none, t.whole.chars ++ '.' :: t.fraction.chars) := by
  rw [text_eq_numeral, splitSign_numeral]
  simp [Digits.text]

theorem isPaddedDigits_text (t : PointedText) : isPaddedDigits t.text = false := by
  rw [isPaddedDigits, splitSign_text]
  split
  case h_1 c cs padded =>
    obtain ⟨first, more, split⟩ := List.exists_cons_of_ne_nil t.whole.nonempty
    have point : '.' ∈ c :: cs := by
      rw [split] at padded
      simp [← (List.cons.inj padded).2]
    exact List.all_eq_false.mpr ⟨'.', point, by decide⟩
  case h_2 => rfl

/-- A decimal with a point is no integer. -/
theorem integer_text (t : PointedText) : integer t.text = .other := by
  have plain : ∀ c ∈ t.whole.chars ++ '.' :: t.fraction.chars, c.isDigit ∨ c = '.' := by
    intro c held
    rcases List.mem_append.mp held with digit | rest
    · exact .inl (t.whole.isDigit c digit)
    · rcases List.mem_cons.mp rest with point | digit
      · exact .inr point
      · exact .inl (t.fraction.isDigit c digit)
  have none : magnitude? t.text (t.whole.chars ++ '.' :: t.fraction.chars) = none := by
    rw [magnitude?_plain plain, digits?_point, ite_self]
  rw [integer, splitSign_text]
  simp only [none]

theorem span_digits (d : Digits) (rest : List Char) (stop : ∀ c ∈ rest.head?, ¬c.isDigit) :
    (d.chars ++ rest).span Char.isDigit = (d.chars, rest) := by
  rw [List.span_eq_takeWhile_dropWhile, List.takeWhile_append_of_pos d.isDigit,
    List.dropWhile_append_of_pos d.isDigit]
  cases rest with
  | nil => simp
  | cons c cs =>
    have stop : ¬c.isDigit := stop c rfl
    simp [stop]

/-- A decimal with a point is read with its digits on both sides. -/
theorem decimal?_text (t : PointedText) :
    decimal? t.text.toList = some (.ofDecimal t.negative
      (Nat.ofDigitChars 10 (t.whole.chars ++ t.fraction.chars) 0) (-t.fraction.chars.length)) := by
  have whole := span_digits t.whole ('.' :: t.fraction.chars) (by simp)
  have fraction : t.fraction.chars.span Char.isDigit = (t.fraction.chars, []) := by
    simpa using span_digits t.fraction [] (by simp)
  have digits : digits? 10 (t.whole.chars ++ t.fraction.chars) =
      some (Nat.ofDigitChars 10 (t.whole.chars ++ t.fraction.chars) 0) := by
    rw [digits?, if_neg (by simp [t.whole.nonempty])]
    exact foldlM_digits _ (List.forall_mem_append.mpr ⟨t.whole.isDigit, t.fraction.isDigit⟩) 0
  rw [decimal?, splitSign_text]
  simp only [whole, fraction, digits]
  cases t.negative <;> simp

/-- The decimal of a number is the number. -/
theorem decimal?_pointed {x : Binary64} (finite : x.isFinite) :
    decimal? x.pointed.text.toList = some x := by
  have rounds := x.rounds_pointed
  rw [PointedText.size_eq] at rounds
  rw [decimal?_text, ofDecimal_eq rounds (x.isFinite_iff.mp finite), negative_pointed, signed_magnitude]

/-- No decimal has the name of a special number. -/
theorem float?_text (t : PointedText) :
    float? t.text = (decimal? t.text.toList).filter isFinite := by
  have opens := opens_text t
  have infinity {unsigned : String} (same : unsigned = t.text) :
      [".inf", ".Inf", ".INF"].contains unsigned = false :=
    same ▸ contains_eq_false opens (by decide)
  rw [float?, infinity, contains_eq_false opens (by decide), contains_eq_false opens (by decide)]
  · rfl
  · refine (congrArg String.ofList ?_).trans String.ofList_toList
    split
    case h_1 cs plus =>
      have sign := congrArg Prod.fst (splitSign_text t)
      rw [plus] at sign
      cases negative : t.negative <;> simp [splitSign, negative] at sign
    case h_2 => rfl

/-- Integers of 64 bits read back from their digits. -/
theorem resolve_toString {n : Int} (low : -2 ^ 63 ≤ n) (high : n < 2 ^ 64) :
    resolve (toString n) = .ok (.number (.int n)) := by
  rw [resolve_of_opens (opens_toString n), integer_toString low high]

/-- Finite floats read back from their decimals. -/
theorem resolve_exact {x : Binary64} (finite : x.isFinite) :
    resolve x.exact = .ok (.number (.float x)) := by
  rw [exact_eq_text finite, resolve_of_opens (opens_text _), integer_text, isPaddedDigits_text,
    float?_text, decimal?_pointed finite, if_neg Bool.false_ne_true, Option.filter_some_pos finite]

end ShaderGraph.Yaml.Scalar
