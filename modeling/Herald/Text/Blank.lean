/-!
# Blank characters

The characters with the Unicode property `White_Space`, and the text left when they are taken off
both ends. A setting is read after this, so `isBlank` decides which settings count as equal.
`trim_eq_iff` says what trimming leaves.
-/

namespace Herald.Text

/-- The ranges of code points with the property `White_Space`, both ends included. -/
def blankRanges : List (Nat × Nat) :=
  [(0x09, 0x0D), (0x20, 0x20), (0x85, 0x85), (0xA0, 0xA0), (0x1680, 0x1680), (0x2000, 0x200A),
    (0x2028, 0x2029), (0x202F, 0x202F), (0x205F, 0x205F), (0x3000, 0x3000)]

/-- Whether a character is white space. -/
def isBlank (c : Char) : Bool :=
  blankRanges.any fun range => range.1 ≤ c.toNat && c.toNat ≤ range.2

/-- The text without the blanks at its start. -/
def trimStart (cs : List Char) : List Char :=
  cs.dropWhile isBlank

/-- The text without the blanks at its end. -/
def trimEnd (cs : List Char) : List Char :=
  (cs.reverse.dropWhile isBlank).reverse

/-- The text without the blanks at either end. -/
def trim (cs : List Char) : List Char :=
  trimEnd (trimStart cs)

/-! ## What trimming leaves -/

@[simp] theorem trim_nil : trim [] = [] := rfl

/-- Blanks in front of a text do not change what trimming leaves. -/
theorem trim_append_of_blank {pad : List Char} (hpad : ∀ c ∈ pad, isBlank c) (cs : List Char) :
    trim (pad ++ cs) = trim cs := by
  simp [trim, trimStart, List.dropWhile_append_of_pos hpad]

/-- Letters and digits are not blank. -/
theorem not_isBlank_of_isAlphanum {c : Char} (h : c.isAlphanum) : ¬ isBlank c := by
  have bounds : 48 ≤ c.toNat ∧ c.toNat ≤ 57 ∨ 65 ≤ c.toNat ∧ c.toNat ≤ 90 ∨
      97 ≤ c.toNat ∧ c.toNat ≤ 122 := by
    delta Char.isAlphanum Char.isAlpha Char.isUpper Char.isLower Char.isDigit at h
    simp only [Bool.or_eq_true, Bool.and_eq_true, decide_eq_true_eq, UInt32.le_iff_toNat_le] at h
    rcases h with (⟨low, high⟩ | ⟨low, high⟩) | ⟨low, high⟩
    · exact .inr (.inl ⟨low, high⟩)
    · exact .inr (.inr ⟨low, high⟩)
    · exact .inl ⟨low, high⟩
  simp only [isBlank, blankRanges, List.any_cons, List.any_nil, Bool.or_false, Bool.or_eq_true,
    Bool.and_eq_true, decide_eq_true_eq]
  omega

/-- A text that begins with no blank is left as it is at its start. -/
theorem trimStart_of_head? {cs : List Char} (visible : ∀ c ∈ cs.head?, ¬ isBlank c) :
    trimStart cs = cs := by
  cases cs with
  | nil => rfl
  | cons c cs => exact List.dropWhile_cons_of_neg (visible c rfl)

/-- No blank is left at the start. -/
theorem head?_trimStart (cs : List Char) : ∀ c ∈ (trimStart cs).head?, ¬ isBlank c := by
  intro c first
  have stopped := List.head?_dropWhile_not isBlank cs
  rw [← trimStart, Option.mem_def.1 first] at stopped
  simpa using stopped

/-- What is taken off the end are blanks. -/
theorem exists_trimEnd_append (cs : List Char) :
    ∃ after, cs = trimEnd cs ++ after ∧ ∀ c ∈ after, isBlank c := by
  refine ⟨(cs.reverse.takeWhile isBlank).reverse, ?_, fun c mem => ?_⟩
  · have whole := congrArg List.reverse
      (List.takeWhile_append_dropWhile (p := isBlank) (l := cs.reverse))
    rw [List.reverse_append, List.reverse_reverse] at whole
    exact whole.symm
  · exact List.all_eq_true.1 List.all_takeWhile c (List.mem_reverse.1 mem)

/-- A text is what is left of another one without the blanks at its ends: there are only blanks
around it, and it neither starts nor ends with one. -/
structure Stripped (cs text : List Char) : Prop where
  around : ∃ before after, cs = before ++ text ++ after ∧ (∀ c ∈ before, isBlank c) ∧
    ∀ c ∈ after, isBlank c
  first : ∀ c ∈ text.head?, ¬ isBlank c
  last : ∀ c ∈ text.getLast?, ¬ isBlank c

/-- Trimming leaves a text without the blanks at its ends. -/
theorem stripped_trim (cs : List Char) : Stripped cs (trim cs) := by
  obtain ⟨after, whole, blank⟩ := exists_trimEnd_append (trimStart cs)
  refine ⟨⟨cs.takeWhile isBlank, after, ?_, ?_, blank⟩, fun c first => ?_, fun c last => ?_⟩
  · rw [trim, List.append_assoc, ← whole]
    exact List.takeWhile_append_dropWhile.symm
  · exact List.all_eq_true.1 List.all_takeWhile
  · -- blanks are taken off the end alone, so the first character is what it was
    refine head?_trimStart cs c ?_
    rw [whole, List.head?_append, ← trim, Option.mem_def.1 first]
    rfl
  · rw [trim, trimEnd, List.getLast?_reverse] at last
    exact head?_trimStart (trimStart cs).reverse c last

/-- Only one text is left without the blanks at the ends. -/
theorem Stripped.trim_eq {cs text : List Char} (stripped : Stripped cs text) : trim cs = text := by
  obtain ⟨⟨before, after, rfl, front, back⟩, first, last⟩ := stripped
  rw [List.append_assoc, trim_append_of_blank front]
  cases text with
  | nil => simpa using trim_append_of_blank back []
  | cons c cs =>
      have forwards : trimStart (c :: cs ++ after) = c :: cs ++ after := trimStart_of_head? first
      have backwards : trimStart (c :: cs).reverse = (c :: cs).reverse := by
        refine trimStart_of_head? fun d final => last d ?_
        rwa [List.head?_reverse] at final
      have blank : ∀ d ∈ after.reverse, isBlank d := fun d mem => back d (List.mem_reverse.1 mem)
      rw [trim, forwards, trimEnd, List.reverse_append, List.dropWhile_append_of_pos blank,
        ← trimStart, backwards, List.reverse_reverse]

theorem trim_eq_iff {cs text : List Char} : trim cs = text ↔ Stripped cs text :=
  ⟨fun same => same ▸ stripped_trim cs, Stripped.trim_eq⟩

/-- More blanks at the ends change nothing. -/
theorem Stripped.pad {cs text front back : List Char} (stripped : Stripped cs text)
    (before : ∀ c ∈ front, isBlank c) (after : ∀ c ∈ back, isBlank c) :
    Stripped (front ++ cs ++ back) text := by
  obtain ⟨⟨inner, outer, rfl, blank, blank'⟩, first, last⟩ := stripped
  refine ⟨⟨front ++ inner, outer ++ back, by simp, ?_, ?_⟩, first, last⟩
  · exact List.forall_mem_append.2 ⟨before, blank⟩
  · exact List.forall_mem_append.2 ⟨blank', after⟩

/-- A text without blanks is left as it is. -/
theorem trim_eq_self {cs : List Char} (visible : ∀ c ∈ cs, ¬ isBlank c) : trim cs = cs := by
  refine Stripped.trim_eq ⟨⟨[], [], by simp, by simp, by simp⟩, fun c first => ?_, fun c last => ?_⟩
  · exact visible c (List.mem_of_mem_head? first)
  · exact visible c (List.mem_of_getLast? last)

/-- What has been trimmed once stays as it is. -/
theorem trim_trim (cs : List Char) : trim (trim cs) = trim cs := by
  obtain ⟨-, first, last⟩ := stripped_trim cs
  exact Stripped.trim_eq ⟨⟨[], [], by simp, by simp, by simp⟩, first, last⟩

/-- Nothing is left of blanks, and only of them. -/
theorem trim_eq_nil_iff {cs : List Char} : trim cs = [] ↔ ∀ c ∈ cs, isBlank c := by
  refine ⟨fun nothing => ?_, fun blank => by simpa using trim_append_of_blank blank []⟩
  obtain ⟨before, after, rfl, front, back⟩ := (trim_eq_iff.1 nothing).around
  simpa using List.forall_mem_append.2 ⟨front, back⟩

end Herald.Text
