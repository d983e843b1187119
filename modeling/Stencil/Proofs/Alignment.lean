import Stencil.Template.Grammar

namespace Stencil

theorem Alignment.ofSigned_ofInt {width : Int} (low : -2147483648 ≤ width)
    (high : width ≤ 2147483647) :
    ofSigned (Int32.ofInt width) =
      if width = 0 then none
      else some ⟨if width < 0 then .left else .right, UInt64.ofNat width.natAbs⟩ := by
  have value : (Int32.ofInt width).toInt = width := Int32.toInt_ofInt_of_le low (by omega)
  have zero : Int32.ofInt width = 0 ↔ width = 0 := by
    rw [← Int32.toInt_inj, value]
    rfl
  have negative : Int32.ofInt width < 0 ↔ width < 0 := by
    rw [Int32.lt_iff_toInt_lt, value]
    rfl
  simp only [ofSigned, zero, negative, value]

theorem readSigned_digits {text : List Char} (decimal : isDigits text) :
    readSigned text = some (digitsValue text : Int) := by
  unfold readSigned
  split
  · simp [isDigits, Char.isDigit] at decimal
  · simp [decimal]

theorem readSigned_minus {magnitude : List Char} (decimal : isDigits magnitude) :
    readSigned ('-' :: magnitude) = some (-(digitsValue magnitude : Int)) := by
  simp [readSigned, decimal]

theorem readSigned_eq_some {text : List Char} {width : Int} (read : readSigned text = some width) :
    (isDigits text ∧ width = digitsValue text) ∨
      ∃ magnitude, text = '-' :: magnitude ∧ isDigits magnitude ∧
        width = -(digitsValue magnitude : Int) := by
  unfold readSigned at read
  split at read
  · next magnitude =>
      right
      split at read
      · next decimal => exact ⟨magnitude, rfl, decimal, (Option.some.inj read).symm⟩
      · contradiction
  · left
    split at read
    · next decimal => exact ⟨decimal, (Option.some.inj read).symm⟩
    · contradiction

theorem readSigned_signedDigits (n : Int) : readSigned (signedDigits n) = some n := by
  unfold signedDigits
  split
  · next negative =>
      have value : -(n.natAbs : Int) = n := by omega
      rw [readSigned_minus (isDigits_digits _), digitsValue_digits, value]
  · next nonnegative =>
      have value : (n.natAbs : Int) = n := by omega
      rw [readSigned_digits (isDigits_digits _), digitsValue_digits, value]

theorem readAlignment_of_readSigned {text : List Char} {width : Int}
    (read : readSigned text = some width) (low : -2147483648 ≤ width)
    (high : width ≤ 2147483647) (nonzero : width ≠ 0) :
    readAlignment text =
      some ⟨if width < 0 then .left else .right, UInt64.ofNat width.natAbs⟩ := by
  have range : Int32.minValue.toInt ≤ width ∧ width ≤ Int32.maxValue.toInt := ⟨low, high⟩
  simp only [readAlignment, read, Option.bind_eq_bind, Option.bind_some, if_pos range,
    Alignment.ofSigned_ofInt low high, if_neg nonzero]

theorem readAlignment_isSome_iff (text : List Char) :
    (readAlignment text).isSome ↔ IsAlignment text := by
  constructor
  · intro present
    rcases Option.isSome_iff_exists.mp present with ⟨alignment, found⟩
    rcases Option.bind_eq_some_iff.mp found with ⟨width, read, made⟩
    split at made
    · next range =>
        have low : -2147483648 ≤ width := range.1
        have high : width ≤ 2147483647 := range.2
        rw [Alignment.ofSigned_ofInt low high] at made
        have nonzero : width ≠ 0 := by
          intro zero
          simp [zero] at made
        rcases readSigned_eq_some read with ⟨decimal, rfl⟩ | ⟨magnitude, rfl, decimal, rfl⟩
        · exact .inl ⟨decimal, by omega, by omega⟩
        · exact .inr ⟨magnitude, rfl, decimal, by omega, by omega⟩
    · contradiction
  · intro alignment
    rcases alignment with ⟨decimal, positive, bound⟩ | ⟨magnitude, rfl, decimal, positive, bound⟩
    · have read := readSigned_digits decimal
      rw [readAlignment_of_readSigned read (by omega) (by omega) (by omega)]
      rfl
    · have read := readSigned_minus decimal
      rw [readAlignment_of_readSigned read (by omega) (by omega) (by omega)]
      rfl

theorem IsAlignment.no_mark {text : List Char} (alignment : IsAlignment text) {mark : Char}
    (other : mark ≠ '-') (letter : mark.isDigit = false) : mark ∉ text := by
  have absent {digits : List Char} (decimal : isDigits digits) : mark ∉ digits := by
    intro member
    simp only [isDigits, Bool.and_eq_true, List.all_eq_true] at decimal
    simp [decimal.2 mark member] at letter
  rcases alignment with ⟨decimal, -⟩ | ⟨magnitude, rfl, decimal, -⟩
  · exact absent decimal
  · simp [other, absent decimal]

/-- Widths whose signed form fits a signed word of 32 bits, and are not zero. -/
def Alignment.IsWritable : Alignment → Prop
  | ⟨.left, width⟩ => 1 ≤ width.toNat ∧ width.toNat ≤ 2147483648
  | ⟨.right, width⟩ => 1 ≤ width.toNat ∧ width.toNat ≤ 2147483647

namespace Alignment

theorem toInt_signed_left {width : UInt64} (bound : width.toNat ≤ 9223372036854775808) :
    (signed ⟨.left, width⟩).toInt = -(width.toNat : Int) := by
  calc
    (signed ⟨.left, width⟩).toInt = (-Int64.ofNat width.toNat).toInt := by
      rw [signed, ← UInt64.toInt64_ofNat', UInt64.ofNat_toNat]
    _ = -(width.toNat : Int) := Int64.toInt_neg_ofNat_of_le bound

theorem toInt_signed_right {width : UInt64} (bound : width.toNat < 9223372036854775808) :
    (signed ⟨.right, width⟩).toInt = width.toNat := by
  calc
    (signed ⟨.right, width⟩).toInt = (Int64.ofNat width.toNat).toInt := by
      rw [signed, ← UInt64.toInt64_ofNat', UInt64.ofNat_toNat]
    _ = width.toNat := Int64.toInt_ofNat_of_lt bound

theorem readAlignment_signedDigits {alignment : Alignment} (writable : alignment.IsWritable) :
    readAlignment (signedDigits alignment.signed.toInt) = some alignment := by
  have read := readSigned_signedDigits alignment.signed.toInt
  rcases alignment with ⟨side, width⟩
  cases side with
  | left =>
      rcases writable with ⟨positive, bound⟩
      have value : (signed ⟨.left, width⟩).toInt = _ := toInt_signed_left (by omega)
      rw [value] at read ⊢
      rw [readAlignment_of_readSigned read (by omega) (by omega) (by omega), if_pos (by omega)]
      simp
  | right =>
      rcases writable with ⟨positive, bound⟩
      have value : (signed ⟨.right, width⟩).toInt = _ := toInt_signed_right (by omega)
      rw [value] at read ⊢
      rw [readAlignment_of_readSigned read (by omega) (by omega) (by omega), if_neg (by omega)]
      simp

end Alignment

end Stencil
