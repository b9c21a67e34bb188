import Herald.Text.Letters
import Herald.Text.Numeral
import Mathlib.Data.List.Forall2
import Mathlib.Data.List.Induction

/-!
# Numerals and names as a reader defines them

Rules for the texts that are read as numbers, with the number that each stands for, and for texts
that are the same but for the case of their letters. The readers of numerals accept these texts and
no others, with these numbers (`unsigned?_eq_some_iff`, `signed?_eq_some_iff`), and the comparison
without case is the rule for letters at each place (`sameLetters_iff_forall₂`).
-/

namespace Herald.Text

/-! ## Numerals -/

/-- One or more digits, and the number that they stand for to base ten. -/
inductive Digits : List Char → Nat → Prop where
  | single {d : Nat} (small : d < 10) : Digits [digit d] d
  | concat {cs : List Char} {n d : Nat} (front : Digits cs n) (small : d < 10) :
      Digits (cs ++ [digit d]) (10 * n + d)

/-- Digits with perhaps a `+` in front. -/
inductive Unsigned : List Char → Nat → Prop where
  | bare {cs : List Char} {n : Nat} (digits : Digits cs n) : Unsigned cs n
  | plus {cs : List Char} {n : Nat} (digits : Digits cs n) : Unsigned ('+' :: cs) n

/-- Digits with perhaps a `+` or a `-` in front. -/
inductive Signed : List Char → Int → Prop where
  | unsigned {cs : List Char} {n : Nat} (numeral : Unsigned cs n) : Signed cs n
  | minus {cs : List Char} {n : Nat} (digits : Digits cs n) : Signed ('-' :: cs) (-n)

theorem toNat_of_isDigit {c : Char} (isDigit : c.isDigit) : 48 ≤ c.toNat ∧ c.toNat ≤ 57 := by
  delta Char.isDigit at isDigit
  simpa [UInt32.le_iff_toNat_le] using isDigit

/-- The digits are those of the numbers below ten. -/
theorem exists_digit {c : Char} (isDigit : c.isDigit) : ∃ d < 10, c = digit d := by
  have bounds := toNat_of_isDigit isDigit
  refine ⟨c.toNat - 48, by omega, ?_⟩
  have value : '0'.toNat + (c.toNat - 48) = c.toNat := Nat.add_sub_cancel' bounds.1
  rw [digit, value, Char.ofNat_toNat]

theorem natural?_digit {d : Nat} (small : d < 10) : natural? [digit d] = some d := by
  simp only [natural?, valueFrom, List.foldl_cons, List.foldl_nil, List.all_cons, List.all_nil,
    digit_isDigit small, toNat_digit small]
  simp

theorem natural?_concat {cs : List Char} {d : Nat} (some : cs ≠ []) (small : d < 10) :
    natural? (cs ++ [digit d]) = (natural? cs).map fun n => 10 * n + d := by
  by_cases digits : cs.all Char.isDigit
  · simp only [natural?, valueFrom, List.foldl_append, List.foldl_cons, List.foldl_nil,
      List.all_append, List.all_cons, List.all_nil, digits, digit_isDigit small, toNat_digit small]
    simp [some]
  · simp [natural?, digits]

theorem all_isDigit_of_natural? {cs : List Char} {n : Nat} (read : natural? cs = some n) :
    cs ≠ [] ∧ cs.all Char.isDigit := by
  unfold natural? at read
  split at read
  · assumption
  · cases read

/-- Digits are read as the number that they stand for, and nothing else is. -/
theorem natural?_eq_some_iff {cs : List Char} {n : Nat} : natural? cs = some n ↔ Digits cs n := by
  constructor
  · intro read
    induction cs using List.reverseRecOn generalizing n with
    | nil => cases read
    | append_singleton cs c ih =>
        have digits := (all_isDigit_of_natural? read).2
        rw [List.all_append, Bool.and_eq_true] at digits
        obtain ⟨d, small, rfl⟩ := exists_digit (c := c) (by simpa using digits.2)
        rcases eq_or_ne cs [] with rfl | some
        · rw [List.nil_append, natural?_digit small] at read
          cases read
          exact .single small
        · rw [natural?_concat some small] at read
          obtain ⟨front, known, rfl⟩ := Option.map_eq_some_iff.1 read
          exact .concat (ih known) small
  · intro digits
    induction digits with
    | single small => exact natural?_digit small
    | concat front small ih =>
        rw [natural?_concat (all_isDigit_of_natural? ih).1 small, ih]
        rfl

theorem Digits.all_isDigit {cs : List Char} {n : Nat} (digits : Digits cs n) :
    cs.all Char.isDigit :=
  (all_isDigit_of_natural? (natural?_eq_some_iff.2 digits)).2

/-- Numerals without a sign or with a `+` are read as their number, and nothing else is. -/
theorem unsigned?_eq_some_iff {cs : List Char} {n : Nat} :
    unsigned? cs = some n ↔ Unsigned cs n := by
  constructor
  · intro read
    unfold unsigned? at read
    split at read
    · exact .plus (natural?_eq_some_iff.1 read)
    · exact .bare (natural?_eq_some_iff.1 read)
  · intro numeral
    cases numeral with
    | bare digits =>
        rw [unsigned?_of_digits digits.all_isDigit]
        exact natural?_eq_some_iff.2 digits
    | plus digits => exact natural?_eq_some_iff.2 digits

/-- Numerals with a sign or without one are read as their number, and nothing else is. -/
theorem signed?_eq_some_iff {cs : List Char} {n : Int} : signed? cs = some n ↔ Signed cs n := by
  constructor
  · intro read
    unfold signed? at read
    split at read
    · next rest =>
      cases known : natural? rest with
      | none => simp [known] at read
      | some value =>
          obtain rfl : -(value : Int) = n := by simpa [known] using read
          exact .minus (natural?_eq_some_iff.1 known)
    · cases known : unsigned? cs with
      | none => simp [known] at read
      | some value =>
          obtain rfl : (value : Int) = n := by simpa [known] using read
          exact .unsigned (unsigned?_eq_some_iff.1 known)
  · intro numeral
    cases numeral with
    | minus digits =>
        rw [signed?, natural?_eq_some_iff.2 digits]
        rfl
    | unsigned numeral =>
        cases numeral with
        | bare digits =>
            rw [signed?_of_digits digits.all_isDigit, natural?_eq_some_iff.2 digits]
            rfl
        | plus digits =>
            rw [signed?, unsigned?, natural?_eq_some_iff.2 digits]
            · rfl
            · simp

/-- There is a digit in a numeral. -/
theorem Signed.exists_isDigit {cs : List Char} {n : Int} (numeral : Signed cs n) :
    ∃ c ∈ cs, c.isDigit := by
  have last {cs : List Char} {n : Nat} (digits : Digits cs n) : ∃ c ∈ cs, c.isDigit := by
    cases digits with
    | single small => exact ⟨_, List.mem_singleton_self _, digit_isDigit small⟩
    | concat front small => exact ⟨_, List.mem_concat_self, digit_isDigit small⟩
  rcases numeral with ⟨digits | digits⟩ | digits
  · exact last digits
  all_goals
    obtain ⟨c, mem, digit⟩ := last digits
    exact ⟨c, .tail _ mem, digit⟩

/-! ## Letters in either case -/

/-- One of the letters `A` to `Z`, and the same letter in lower case. -/
def IsCapitalOf (capital small : Char) : Prop :=
  'A' ≤ capital ∧ capital ≤ 'Z' ∧ small.toNat = capital.toNat + 32

/-- The same character, or one of the letters `A` to `Z` in both its cases. -/
def SameButCase (a b : Char) : Prop :=
  a = b ∨ IsCapitalOf a b ∨ IsCapitalOf b a

theorem isCapitalOf_iff {capital small : Char} :
    IsCapitalOf capital small ↔
      65 ≤ capital.toNat ∧ capital.toNat ≤ 90 ∧ small.toNat = capital.toNat + 32 :=
  Iff.rfl

theorem toNat_toLower (c : Char) :
    c.toLower.toNat = if 65 ≤ c.toNat ∧ c.toNat ≤ 90 then c.toNat + 32 else c.toNat := by
  delta Char.toLower
  change Char.toNat (if _ : 65 ≤ c.toNat ∧ c.toNat ≤ 90 then _ else _) = _
  split
  · next capital =>
    change (c.val + 32).toNat = _
    rw [UInt32.toNat_add]
    change (c.toNat + 32) % _ = _
    rw [Nat.mod_eq_of_lt (by omega)]
  · rfl

theorem toLower_eq_iff {a b : Char} : a.toLower = b.toLower ↔ SameButCase a b := by
  rw [← Char.toNat_inj, toNat_toLower, toNat_toLower, SameButCase, ← Char.toNat_inj,
    isCapitalOf_iff, isCapitalOf_iff]
  split_ifs <;> omega

/-- Texts are the same without case if they are the same but for case at each place. -/
theorem sameLetters_iff_forall₂ {as bs : List Char} :
    sameLetters as bs ↔ List.Forall₂ SameButCase as bs := by
  rw [sameLetters_iff]
  induction as generalizing bs with
  | nil => cases bs <;> simp [lower]
  | cons a as ih =>
      cases bs with
      | nil => simp [lower]
      | cons b bs =>
          rw [List.forall₂_cons, ← ih, ← toLower_eq_iff]
          simp [lower]

/-- A digit has no case. -/
theorem SameButCase.eq_of_isDigit {a b : Char} (same : SameButCase a b) (digit : a.isDigit) :
    a = b := by
  have bounds := toNat_of_isDigit digit
  rw [SameButCase, isCapitalOf_iff, isCapitalOf_iff] at same
  rcases same with same | capital | capital
  · exact same
  · omega
  · omega

end Herald.Text
