/-!
# Cutting a text at a separator

`pieces` cuts at every occurrence of one character, so a text without the separator is its own
only piece and a separator at an end leaves an empty piece there.  `joined` puts a separator text
between pieces again.
-/

namespace CriteriaSearch.Text

/-- The first piece of a text, together with all the later ones. -/
def cut (separator : Char) : List Char → List Char × List (List Char)
  | [] => ([], [])
  | c :: rest =>
    let (first, later) := cut separator rest
    if c = separator then ([], first :: later) else (c :: first, later)

/-- All pieces of a text between occurrences of the separator, empty ones included. -/
def pieces (separator : Char) (cs : List Char) : List (List Char) :=
  (cut separator cs).1 :: (cut separator cs).2

/-- The pieces put together with `glue` between any two neighbours. -/
def joined (glue : List Char) : List (List Char) → List Char
  | [] => []
  | [piece] => piece
  | piece :: next :: rest => piece ++ glue ++ joined glue (next :: rest)

theorem joined_eq_intercalate (glue : List Char) (parts : List (List Char)) :
    joined glue parts = glue.intercalate parts := by
  induction parts with
  | nil => rfl
  | cons part rest ih =>
      cases rest with
      | nil => simp [joined, List.intercalate]
      | cons next more => simp [joined, ih, List.intercalate]

theorem joined_cons_of_ne_nil (glue piece : List Char) {rest : List (List Char)}
    (inhabited : rest ≠ []) : joined glue (piece :: rest) = piece ++ glue ++ joined glue rest := by
  cases rest with
  | nil => exact absurd rfl inhabited
  | cons next more => rfl

theorem cut_cons_self (separator : Char) (cs : List Char) :
    cut separator (separator :: cs) = ([], pieces separator cs) :=
  if_pos rfl

theorem cut_cons_of_ne {separator c : Char} (other : c ≠ separator) (cs : List Char) :
    cut separator (c :: cs) = (c :: (cut separator cs).1, (cut separator cs).2) :=
  if_neg other

/-- A text without the separator is its own only piece. -/
theorem cut_of_not_mem {separator : Char} {cs : List Char} (absent : separator ∉ cs) :
    cut separator cs = (cs, []) := by
  induction cs with
  | nil => rfl
  | cons c rest ih =>
      rw [List.mem_cons, not_or] at absent
      rw [cut_cons_of_ne (Ne.symm absent.1), ih absent.2]

/-- The first piece ends at the first separator, and the rest is cut by itself. -/
theorem cut_append {separator : Char} {front back : List Char} (absent : separator ∉ front) :
    cut separator (front ++ separator :: back) =
      (front, (cut separator back).1 :: (cut separator back).2) := by
  induction front with
  | nil => exact cut_cons_self separator back
  | cons c rest ih =>
      rw [List.mem_cons, not_or] at absent
      rw [List.cons_append, cut_cons_of_ne (Ne.symm absent.1), ih absent.2]

theorem pieces_cons_self (separator : Char) (cs : List Char) :
    pieces separator (separator :: cs) = [] :: pieces separator cs := by
  rw [pieces, cut_cons_self]

theorem pieces_cons_of_ne {separator c : Char} (other : c ≠ separator) (cs : List Char) :
    pieces separator (c :: cs) =
      (c :: (cut separator cs).1) :: (cut separator cs).2 := by
  rw [pieces, cut_cons_of_ne other]

theorem pieces_of_not_mem {separator : Char} {cs : List Char} (absent : separator ∉ cs) :
    pieces separator cs = [cs] := by
  rw [pieces, cut_of_not_mem absent]

theorem pieces_ne_nil (separator : Char) (cs : List Char) : pieces separator cs ≠ [] :=
  List.cons_ne_nil _ _

/-- A separator between two texts separates their pieces. -/
theorem pieces_append (separator : Char) (front back : List Char) :
    pieces separator (front ++ separator :: back) =
      pieces separator front ++ pieces separator back := by
  induction front with
  | nil => exact pieces_cons_self separator back
  | cons c rest ih =>
      by_cases same : c = separator
      · subst same
        rw [List.cons_append, pieces_cons_self, ih, pieces_cons_self, List.cons_append]
      · rcases List.cons.inj ih with ⟨first, later⟩
        rw [List.cons_append, pieces_cons_of_ne same, first, later, pieces_cons_of_ne same]
        rfl

/-- Cutting loses nothing: the pieces, joined by the separator, are the text. -/
theorem joined_pieces (separator : Char) (cs : List Char) :
    joined [separator] (pieces separator cs) = cs := by
  induction cs with
  | nil => rfl
  | cons c rest ih =>
      by_cases same : c = separator
      · subst same
        rw [pieces_cons_self, joined_cons_of_ne_nil _ _ (pieces_ne_nil c rest), ih]
        rfl
      · rw [pieces_cons_of_ne same]
        rw [pieces] at ih
        cases later : (cut separator rest).2 with
        | nil =>
            rw [later] at ih
            exact congrArg (c :: ·) ih
        | cons next more =>
            rw [later] at ih
            exact congrArg (c :: ·) ih

/-- No piece holds the separator. -/
theorem not_mem_of_mem_pieces {separator : Char} {cs piece : List Char}
    (listed : piece ∈ pieces separator cs) : separator ∉ piece := by
  induction cs generalizing piece with
  | nil =>
      rw [pieces_of_not_mem List.not_mem_nil] at listed
      rw [List.mem_singleton.1 listed]
      exact List.not_mem_nil
  | cons c rest ih =>
      by_cases same : c = separator
      · subst same
        rw [pieces_cons_self] at listed
        rcases List.mem_cons.1 listed with rfl | later
        · exact List.not_mem_nil
        · exact ih later
      · rw [pieces_cons_of_ne same] at listed
        rcases List.mem_cons.1 listed with rfl | later
        · rw [List.mem_cons, not_or]
          exact ⟨Ne.symm same, ih List.mem_cons_self⟩
        · exact ih (List.mem_cons_of_mem _ later)

/-- There is a later piece exactly where there is a separator. -/
theorem cut_snd_eq_nil_iff {separator : Char} {cs : List Char} :
    (cut separator cs).2 = [] ↔ separator ∉ cs := by
  constructor
  · intro single
    have whole := joined_pieces separator cs
    rw [pieces, single, joined] at whole
    have apart : separator ∉ (cut separator cs).1 :=
      not_mem_of_mem_pieces (List.mem_cons_self : _ ∈ pieces separator cs)
    rwa [whole] at apart
  · intro absent
    rw [cut_of_not_mem absent]

/-- The text falls into the parts when it is cut at every separator. -/
structure FallsInto (separator : Char) (cs : List Char) (parts : List (List Char)) : Prop where
  inhabited : parts ≠ []
  apart : ∀ part ∈ parts, separator ∉ part
  whole : joined [separator] parts = cs

theorem fallsInto_pieces (separator : Char) (cs : List Char) :
    FallsInto separator cs (pieces separator cs) :=
  ⟨pieces_ne_nil separator cs, fun _ => not_mem_of_mem_pieces, joined_pieces separator cs⟩

/-- Parts without the separator are found again where it has been put between them. -/
theorem pieces_joined {separator : Char} {parts : List (List Char)} (inhabited : parts ≠ [])
    (apart : ∀ part ∈ parts, separator ∉ part) :
    pieces separator (joined [separator] parts) = parts := by
  induction parts with
  | nil => exact absurd rfl inhabited
  | cons part rest ih =>
      rcases List.forall_mem_cons.1 apart with ⟨own, others⟩
      cases rest with
      | nil => exact pieces_of_not_mem own
      | cons next more =>
          have later := ih (List.cons_ne_nil _ _) others
          rw [joined_cons_of_ne_nil _ _ (List.cons_ne_nil _ _), List.append_assoc,
            List.singleton_append, pieces_append, pieces_of_not_mem own, later]
          rfl

/-- A text falls into parts in one way only. -/
theorem FallsInto.eq_pieces {separator : Char} {cs : List Char} {parts : List (List Char)}
    (falls : FallsInto separator cs parts) : parts = pieces separator cs := by
  rw [← falls.whole, pieces_joined falls.inhabited falls.apart]

end CriteriaSearch.Text
