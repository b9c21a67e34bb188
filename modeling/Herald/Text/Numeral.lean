/-!
# Decimal numerals

A numeral is one or more of the digits `0` to `9`, with any number of leading zeros, and its value
is what they say to base ten. A sign in front of it is an affair of the reader: a count admits
`+`, a number that may be negative admits `-` as well.

`decimal` writes a natural number with no leading zero, and `natural?_decimal` reads it back.
-/

namespace Herald.Text

/-- The value of a text of digits, read from the left onto what came before. -/
def valueFrom (before : Nat) (cs : List Char) : Nat :=
  cs.foldl (fun value c => 10 * value + (c.toNat - '0'.toNat)) before

/-- The value of an unsigned numeral: at least one digit and nothing else. -/
def natural? (cs : List Char) : Option Nat :=
  if cs ≠ [] ∧ cs.all Char.isDigit then some (valueFrom 0 cs) else none

/-- The value of a numeral that may have a `+` in front. -/
def unsigned? : List Char → Option Nat
  | '+' :: cs => natural? cs
  | cs => natural? cs

/-- The value of a numeral that may have a `+` or a `-` in front. -/
def signed? : List Char → Option Int
  | '-' :: cs => (natural? cs).map fun n => -(n : Int)
  | cs => (unsigned? cs).map fun n => (n : Int)

/-- The digit with a value below ten. -/
def digit (n : Nat) : Char :=
  Char.ofNat ('0'.toNat + n)

/-- The numeral of a natural number, without leading zeros. -/
def decimal (n : Nat) : List Char :=
  if n < 10 then [digit n] else decimal (n / 10) ++ [digit (n % 10)]

/-- The numeral of an integer, with a `-` in front of a negative one. -/
def decimalInt : Int → List Char
  | .ofNat n => decimal n
  | .negSucc n => '-' :: decimal (n + 1)

/-! ## What is written is read back -/

theorem digit_isDigit {n : Nat} (h : n < 10) : (digit n).isDigit := by
  have : ∀ i : Fin 10, (digit i.1).isDigit := by decide
  exact this ⟨n, h⟩

theorem toNat_digit {n : Nat} (h : n < 10) : (digit n).toNat - '0'.toNat = n := by
  have : ∀ i : Fin 10, (digit i.1).toNat - '0'.toNat = i.1 := by decide
  exact this ⟨n, h⟩

theorem decimal_ne_nil (n : Nat) : decimal n ≠ [] := by
  rw [decimal]
  split <;> simp

theorem decimal_all_isDigit (n : Nat) : (decimal n).all Char.isDigit := by
  induction n using Nat.strongRecOn with
  | ind n ih =>
    rw [decimal]
    split
    · next h => simp [digit_isDigit h]
    · next h =>
      simp only [List.all_append, ih (n / 10) (by omega), Bool.true_and]
      simp [digit_isDigit (Nat.mod_lt n (by decide : 10 > 0))]

theorem valueFrom_decimal (n : Nat) : valueFrom 0 (decimal n) = n := by
  induction n using Nat.strongRecOn with
  | ind n ih =>
    rw [decimal]
    split
    · next h => simp only [valueFrom, List.foldl_cons, List.foldl_nil, toNat_digit h]; omega
    · next h =>
      have hd := ih (n / 10) (by omega)
      have hm := toNat_digit (Nat.mod_lt n (by decide : 10 > 0))
      simp only [valueFrom, List.foldl_append, List.foldl_cons, List.foldl_nil] at hd ⊢
      rw [hd, hm]
      omega

/-- The numeral that is written for a natural number has that number as its value. -/
theorem natural?_decimal (n : Nat) : natural? (decimal n) = some n := by
  simp [natural?, decimal_ne_nil, valueFrom_decimal, decimal_all_isDigit n]

/-- Different numbers have different numerals. -/
theorem decimal_inj {m n : Nat} (same : decimal m = decimal n) : m = n := by
  have read := natural?_decimal m
  rw [same, natural?_decimal] at read
  exact (Option.some.inj read).symm

/-- Digits alone are read without a sign. -/
theorem unsigned?_of_digits {cs : List Char} (digits : cs.all Char.isDigit) :
    unsigned? cs = natural? cs := by
  unfold unsigned?
  split
  · simp at digits
  · rfl

theorem signed?_of_digits {cs : List Char} (digits : cs.all Char.isDigit) :
    signed? cs = (natural? cs).map fun n => (n : Int) := by
  unfold signed?
  split
  · simp at digits
  · rw [unsigned?_of_digits digits]

/-- The numeral of a natural number is read back where a sign is admitted. -/
theorem unsigned?_decimal (n : Nat) : unsigned? (decimal n) = some n := by
  rw [unsigned?_of_digits (decimal_all_isDigit n), natural?_decimal]

/-- The numeral that is written for an integer has that integer as its value. -/
theorem signed?_decimalInt (n : Int) : signed? (decimalInt n) = some n := by
  cases n with
  | ofNat n => simp [decimalInt, signed?_of_digits (decimal_all_isDigit n), natural?_decimal]
  | negSucc n => simp [decimalInt, signed?, natural?_decimal, Int.negSucc_eq]

/-- A numeral holds digits, and a `-` perhaps. -/
theorem isDigit_of_mem_decimal {n : Nat} {c : Char} (mem : c ∈ decimal n) : c.isDigit :=
  List.all_eq_true.1 (decimal_all_isDigit n) c mem

theorem isDigit_of_mem_decimalInt {n : Int} {c : Char} (mem : c ∈ decimalInt n) :
    c = '-' ∨ c.isDigit := by
  cases n with
  | ofNat n => exact .inr (isDigit_of_mem_decimal mem)
  | negSucc n =>
      rcases List.mem_cons.1 mem with sign | mem
      · exact .inl sign
      · exact .inr (isDigit_of_mem_decimal mem)

end Herald.Text
