/-
Numbers are read back from their decimal digits.
-/
import OpalLocking.CommandLine.Number
import Mathlib.Data.List.Basic

namespace OpalLocking.CommandLine

/-! ## What may fail -/

theorem ok_bind {ε α β : Type} (a : α) (f : α → Except ε β) : (Except.ok a >>= f) = f a :=
  rfl

theorem bind_eq_ok {ε α β : Type} {x : Except ε α} {f : α → Except ε β} {b : β} :
    (x >>= f) = .ok b ↔ ∃ a, x = .ok a ∧ f a = .ok b := by
  cases x with
  | error e => exact ⟨nofun, nofun⟩
  | ok a =>
    constructor
    · exact fun h => ⟨a, rfl, h⟩
    · rintro ⟨_, same, h⟩
      cases same
      exact h

/-! ## Digits -/

/-- More digits never make a number smaller. -/
theorem le_ofDigitChars (n : Nat) (digits : List Char) : n ≤ Nat.ofDigitChars 10 digits n := by
  induction digits generalizing n with
  | nil => exact Nat.le_refl n
  | cons c rest ih =>
    rw [Nat.ofDigitChars_cons]
    exact Nat.le_trans (by omega) (ih _)

/-- Only the whole number has to keep to the limit: the numbers on the way to it are smaller. -/
theorem readDigits_eq {limit n : Nat} {beyond : NumberError} {digits : List Char}
    (all : ∀ c ∈ digits, c.isDigit = true) (within : Nat.ofDigitChars 10 digits n ≤ limit) :
    readDigits limit beyond n digits = .ok (Nat.ofDigitChars 10 digits n) := by
  induction digits generalizing n with
  | nil => rfl
  | cons c rest ih =>
    obtain ⟨digit, all⟩ := List.forall_mem_cons.1 all
    rw [Nat.ofDigitChars_cons] at within ⊢
    have least := Nat.le_trans (le_ofDigitChars _ rest) within
    rw [readDigits, if_pos digit, if_neg (Nat.not_lt.2 least)]
    exact ih all within

theorem readDigits_toDigits {limit n : Nat} (beyond : NumberError) (within : n ≤ limit) :
    readDigits limit beyond 0 (Nat.toDigits 10 n) = .ok n := by
  have value : Nat.ofDigitChars 10 (Nat.toDigits 10 n) 0 = n := Nat.ofDigitChars_ten_toDigits
  rw [readDigits_eq (fun c mem => Nat.isDigit_of_mem_toDigits (by decide) (by decide) mem) (by omega), value]

/-- A number in decimal begins with a digit, so with no sign. -/
theorem toDigits_eq_cons (n : Nat) :
    ∃ c rest, Nat.toDigits 10 n = c :: rest ∧ c ≠ '+' ∧ c ≠ '-' := by
  obtain ⟨c, rest, digits⟩ := List.exists_cons_of_ne_nil (Nat.toDigits_ne_nil : Nat.toDigits 10 n ≠ [])
  have digit : c.isDigit = true := by
    apply Nat.isDigit_of_mem_toDigits (b := 10) (n := n) (by decide) (by decide)
    rw [digits]
    exact List.mem_cons_self
  refine ⟨c, rest, digits, ?_, ?_⟩
  · rintro rfl
    exact absurd digit (by decide)
  · rintro rfl
    exact absurd digit (by decide)

/-! ## Numbers -/

theorem readUnsigned_digits {c : Char} {rest : List Char} (unsigned : c ≠ '+') :
    readUnsigned (c :: rest) = UInt64.ofNat <$> readDigits (UInt64.size - 1) .tooLarge 0 (c :: rest) := by
  unfold readUnsigned
  split <;> simp_all

theorem readSigned_digits {c : Char} {rest : List Char} (noPlus : c ≠ '+') (noMinus : c ≠ '-') :
    readSigned (c :: rest) = Int.ofNat <$> readDigits (UInt64.size / 2 - 1) .tooLarge 0 (c :: rest) := by
  unfold readSigned
  split <;> simp_all

theorem readUnsigned_toString (n : UInt64) : readUnsigned (toString n.toNat).toList = .ok n := by
  have read := readDigits_toDigits .tooLarge (Nat.le_sub_one_of_lt n.toNat_lt_size)
  obtain ⟨c, rest, digits, unsigned, -⟩ := toDigits_eq_cons n.toNat
  rw [digits] at read
  rw [Nat.toString_eq_ofList_toDigits, String.toList_ofList, digits, readUnsigned_digits unsigned, read]
  exact congrArg Except.ok UInt64.ofNat_toNat

theorem readSegment_toString (n : UInt32) : readSegment (toString n.toNat).toList = .ok n := by
  have within : n.toNat ≤ UInt64.size / 2 - 1 :=
    Nat.le_trans (Nat.le_of_lt n.toNat_lt_size) (by decide)
  have read := readDigits_toDigits .tooLarge within
  have inside : 0 ≤ (n.toNat : Int) ∧ (n.toNat : Int) < UInt32.size :=
    ⟨Int.natCast_nonneg _, Int.ofNat_lt.2 n.toNat_lt_size⟩
  obtain ⟨c, rest, digits, noPlus, noMinus⟩ := toDigits_eq_cons n.toNat
  rw [digits] at read
  have signed : readSigned (c :: rest) = .ok (n.toNat : Int) := by
    rw [readSigned_digits noPlus noMinus, read]
    rfl
  rw [Nat.toString_eq_ofList_toDigits, String.toList_ofList, digits, readSegment, signed, ok_bind, if_pos inside,
    Int.toNat_natCast, UInt32.ofNat_toNat]

end OpalLocking.CommandLine
