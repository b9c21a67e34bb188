/-!
# Pieces of a text

A text cut at every occurrence of a separator. There is always one piece more than there are
separators, so the empty text has one piece, the empty one.

`pieces_append` is the law that matters: the pieces of `as`, a separator and `bs` are the pieces of
`as` followed by the pieces of `bs`. `pieces_eq_iff` says which texts the pieces are.
-/

namespace Herald.Text

/-- The pieces between the separators, in order. -/
def pieces (separator : Char) : List Char → List (List Char)
  | [] => [[]]
  | c :: cs =>
    if c = separator then
      [] :: pieces separator cs
    else
      match pieces separator cs with
      | [] => [[c]]
      | piece :: rest => (c :: piece) :: rest

/-- There is at least one piece. -/
theorem pieces_ne_nil (separator : Char) (cs : List Char) : pieces separator cs ≠ [] := by
  cases cs with
  | nil => simp [pieces]
  | cons c cs =>
    rw [pieces]
    split
    · simp
    · split <;> simp

/-- Cutting distributes over joining with the separator. -/
theorem pieces_append (separator : Char) (as bs : List Char) :
    pieces separator (as ++ separator :: bs) = pieces separator as ++ pieces separator bs := by
  induction as with
  | nil => simp [pieces]
  | cons a as ih =>
    by_cases h : a = separator
    · simp [pieces, h, ih]
    · obtain ⟨piece, rest, hp⟩ := List.exists_cons_of_ne_nil (pieces_ne_nil separator as)
      simp [pieces, h, ih, hp]

/-- No piece holds the separator. -/
theorem not_mem_of_mem_pieces {separator : Char} {cs piece : List Char}
    (mem : piece ∈ pieces separator cs) : separator ∉ piece := by
  induction cs generalizing piece with
  | nil =>
    rw [pieces, List.mem_singleton] at mem
    simp [mem]
  | cons c cs ih =>
    obtain ⟨first, rest, cut⟩ := List.exists_cons_of_ne_nil (pieces_ne_nil separator cs)
    rw [cut] at ih
    rw [pieces] at mem
    split at mem
    · rw [cut] at mem
      rcases List.mem_cons.1 mem with rfl | mem
      · simp
      · exact ih mem
    · next differs =>
      rw [cut] at mem
      rcases List.mem_cons.1 mem with rfl | mem
      · exact List.not_mem_cons_of_ne_of_not_mem (Ne.symm differs) (ih List.mem_cons_self)
      · exact ih (List.mem_cons_of_mem _ mem)

/-- The pieces and separators between them are the whole text. -/
theorem intercalate_pieces (separator : Char) (cs : List Char) :
    [separator].intercalate (pieces separator cs) = cs := by
  induction cs with
  | nil => rfl
  | cons c cs ih =>
    obtain ⟨first, rest, cut⟩ := List.exists_cons_of_ne_nil (pieces_ne_nil separator cs)
    rw [pieces, cut]
    rw [cut] at ih
    split
    · next same => rw [List.intercalate_cons_cons, ih, same]; rfl
    · cases rest with
      | nil => simpa using ih
      | cons next rest =>
        rw [List.intercalate_cons_cons] at ih ⊢
        rw [List.cons_append, List.cons_append, ih]

/-- A text without the separator is one piece. -/
theorem pieces_eq_singleton {separator : Char} {cs : List Char} (whole : separator ∉ cs) :
    pieces separator cs = [cs] := by
  induction cs with
  | nil => rfl
  | cons c cs ih =>
    obtain ⟨differs, rest⟩ := List.ne_and_not_mem_of_not_mem_cons whole
    rw [pieces, if_neg differs.symm, ih rest]

/-- Texts without the separator are the pieces of what joins them with it. -/
theorem pieces_intercalate {separator : Char} {texts : List (List Char)} (some : texts ≠ [])
    (whole : ∀ text ∈ texts, separator ∉ text) :
    pieces separator ([separator].intercalate texts) = texts := by
  induction texts with
  | nil => exact absurd rfl some
  | cons text texts ih =>
    obtain ⟨first, later⟩ := List.forall_mem_cons.1 whole
    cases texts with
    | nil => simpa using pieces_eq_singleton first
    | cons next texts =>
      rw [List.intercalate_cons_cons, List.append_assoc, List.singleton_append, pieces_append,
        pieces_eq_singleton first, ih (List.cons_ne_nil _ _) later, List.singleton_append]

/-- Texts are what a text is cut into: none of them holds the separator, and joined with it they are
the text. -/
structure Cut (separator : Char) (cs : List Char) (texts : List (List Char)) : Prop where
  some : texts ≠ []
  whole : ∀ text ∈ texts, separator ∉ text
  joined : [separator].intercalate texts = cs

/-- A text is cut in one way only. -/
theorem pieces_eq_iff {separator : Char} {cs : List Char} {texts : List (List Char)} :
    pieces separator cs = texts ↔ Cut separator cs texts := by
  constructor
  · rintro rfl
    exact ⟨pieces_ne_nil separator cs, fun _ => not_mem_of_mem_pieces,
      intercalate_pieces separator cs⟩
  · rintro ⟨some, whole, rfl⟩
    exact pieces_intercalate some whole

end Herald.Text
