/-!
# White space and trimming

Names, phrases and URLs arrive with stray white space around them, and several rules of this
library ask whether a text says anything at all.  Both questions are answered against one class of
characters, the `White_Space` property of Unicode.  The class is larger than ASCII blanks: the
ideographic space and the no-break space belong to it, the zero-width space does not.
-/

namespace CriteriaSearch.Text

/-- The characters of the Unicode property `White_Space`. -/
def isBlankChar (c : Char) : Bool :=
  let n := c.toNat
  (0x09 ≤ n && n ≤ 0x0D) || n = 0x20 || n = 0x85 || n = 0xA0 || n = 0x1680 ||
    (0x2000 ≤ n && n ≤ 0x200A) || n = 0x2028 || n = 0x2029 || n = 0x202F || n = 0x205F ||
    n = 0x3000

/-- A text is blank when it holds nothing but white space; the empty text is blank. -/
def isBlank (cs : List Char) : Bool :=
  cs.all isBlankChar

/-- The text without its leading white space. -/
def trimStart (cs : List Char) : List Char :=
  cs.dropWhile isBlankChar

/-- The text without its trailing white space. -/
def trimEnd (cs : List Char) : List Char :=
  (cs.reverse.dropWhile isBlankChar).reverse

/-- The text without the white space at its two ends. -/
def trim (cs : List Char) : List Char :=
  trimEnd (trimStart cs)

/-- `trim` on strings. -/
def trimmed (s : String) : String :=
  String.ofList (trim s.toList)

/-- `isBlank` on strings. -/
def blank (s : String) : Bool :=
  isBlank s.toList

private theorem dropWhile_isBlankChar_eq_nil_iff (cs : List Char) :
    cs.dropWhile isBlankChar = [] ↔ isBlank cs = true := by
  induction cs with
  | nil => exact ⟨fun _ => rfl, fun _ => rfl⟩
  | cons c rest ih =>
      cases space : isBlankChar c with
      | true =>
          rw [List.dropWhile_cons_of_pos space, ih, isBlank, isBlank, List.all_cons, space,
            Bool.true_and]
      | false =>
          rw [List.dropWhile_cons_of_neg (Bool.eq_false_iff.1 space), isBlank, List.all_cons, space,
            Bool.false_and]
          exact ⟨nofun, nofun⟩

/-! ## White space at the ends -/

theorem isBlank_append (front back : List Char) :
    isBlank (front ++ back) = (isBlank front && isBlank back) :=
  List.all_append

theorem isBlank_reverse (cs : List Char) : isBlank cs.reverse = isBlank cs :=
  List.all_reverse

/-- A text that is not blank has a first character besides white space. -/
theorem exists_of_not_isBlank {cs : List Char} (written : isBlank cs = false) :
    ∃ space c rest, isBlank space = true ∧ isBlankChar c = false ∧ cs = space ++ c :: rest := by
  induction cs with
  | nil => cases written
  | cons c rest ih =>
      rw [isBlank, List.all_cons] at written
      cases first : isBlankChar c with
      | true =>
          rw [first, Bool.true_and] at written
          rcases ih written with ⟨space, visible, more, blank, seen, rfl⟩
          refine ⟨c :: space, visible, more, ?_, seen, rfl⟩
          rw [isBlank, List.all_cons, first, ← isBlank, blank, Bool.and_self]
      | false => exact ⟨[], c, rest, rfl, first, rfl⟩

theorem trimStart_append_cons {space : List Char} {c : Char} (blank : isBlank space = true)
    (visible : isBlankChar c = false) (rest : List Char) :
    trimStart (space ++ c :: rest) = c :: rest := by
  rw [isBlank, List.all_eq_true] at blank
  rw [trimStart, List.dropWhile_append_of_pos blank,
    List.dropWhile_cons_of_neg (Bool.eq_false_iff.1 visible)]

theorem trimEnd_append_cons {c : Char} (visible : isBlankChar c = false)
    (front rest : List Char) : trimEnd (front ++ c :: rest) = front ++ c :: trimEnd rest := by
  simp [trimEnd, List.dropWhile_append, visible]

theorem trim_append_cons {space : List Char} {c : Char} (blank : isBlank space = true)
    (visible : isBlankChar c = false) (rest : List Char) :
    trim (space ++ c :: rest) = c :: trimEnd rest := by
  rw [trim, trimStart_append_cons blank visible]
  exact trimEnd_append_cons visible [] rest

theorem trim_cons {c : Char} (visible : isBlankChar c = false) (rest : List Char) :
    trim (c :: rest) = c :: trimEnd rest :=
  trim_append_cons (show isBlank [] = true from rfl) visible rest

theorem isBlank_trimEnd (cs : List Char) : isBlank (trimEnd cs) = isBlank cs := by
  have whole := List.takeWhile_append_dropWhile (p := isBlankChar) (l := cs.reverse)
  have space : isBlank (cs.reverse.takeWhile isBlankChar) = true := List.all_takeWhile
  rw [trimEnd, isBlank_reverse, ← isBlank_reverse cs, ← whole, isBlank_append, whole, space,
    Bool.true_and]

theorem trimEnd_of_isBlank {cs : List Char} (blank : isBlank cs = true) : trimEnd cs = [] := by
  rw [← isBlank_reverse] at blank
  rw [trimEnd, (dropWhile_isBlankChar_eq_nil_iff _).2 blank, List.reverse_nil]

/-- Trimming leaves nothing exactly when there was nothing but white space. -/
theorem trim_eq_nil_iff (cs : List Char) : trim cs = [] ↔ isBlank cs = true := by
  cases blank : isBlank cs with
  | true =>
      have nothing : trimStart cs = [] := (dropWhile_isBlankChar_eq_nil_iff cs).2 blank
      rw [trim, nothing]
      exact ⟨fun _ => rfl, fun _ => rfl⟩
  | false =>
      rcases exists_of_not_isBlank blank with ⟨space, c, rest, spaced, visible, rfl⟩
      rw [trim_append_cons spaced visible]
      exact ⟨nofun, nofun⟩

theorem trimEnd_trimEnd (cs : List Char) : trimEnd (trimEnd cs) = trimEnd cs := by
  cases blank : isBlank cs.reverse with
  | true =>
      rw [isBlank_reverse] at blank
      rw [trimEnd_of_isBlank blank]
      rfl
  | false =>
      rcases exists_of_not_isBlank blank with ⟨space, c, rest, spaced, visible, reversed⟩
      have kept : cs.reverse.dropWhile isBlankChar = c :: rest := by
        rw [reversed, ← trimStart, trimStart_append_cons spaced visible]
      have ends : trimEnd cs = rest.reverse ++ [c] := by
        rw [trimEnd, kept, List.reverse_cons]
      rw [ends, trimEnd_append_cons visible]
      rfl

/-- White space at the end makes no difference. -/
theorem trim_trimEnd (cs : List Char) : trim (trimEnd cs) = trim cs := by
  cases blank : isBlank cs with
  | true =>
      rw [(trim_eq_nil_iff cs).2 blank, trim_eq_nil_iff, isBlank_trimEnd, blank]
  | false =>
      rcases exists_of_not_isBlank blank with ⟨space, c, rest, spaced, visible, rfl⟩
      rw [trimEnd_append_cons visible, trim_append_cons spaced visible,
        trim_append_cons spaced visible, trimEnd_trimEnd]

theorem trim_trim (cs : List Char) : trim (trim cs) = trim cs := by
  cases blank : isBlank cs with
  | true =>
      rw [(trim_eq_nil_iff cs).2 blank]
      rfl
  | false =>
      rcases exists_of_not_isBlank blank with ⟨space, c, rest, spaced, visible, rfl⟩
      rw [trim_append_cons spaced visible, trim_cons visible, trimEnd_trimEnd]

theorem isBlank_trim (cs : List Char) : isBlank (trim cs) = isBlank cs := by
  rw [Bool.eq_iff_iff, ← trim_eq_nil_iff, trim_trim, trim_eq_nil_iff]

/-- No character comes in by trimming. -/
theorem trim_sublist (cs : List Char) : (trim cs).Sublist cs := by
  have start : (trimStart cs).Sublist cs := List.dropWhile_sublist isBlankChar
  have back := (List.dropWhile_sublist (l := (trimStart cs).reverse) isBlankChar).reverse
  rw [List.reverse_reverse] at back
  exact back.trans start

/-- White space in front makes no difference. -/
theorem trim_blank_append {space : List Char} (blank : isBlank space = true) (cs : List Char) :
    trim (space ++ cs) = trim cs := by
  rw [isBlank, List.all_eq_true] at blank
  rw [trim, trimStart, List.dropWhile_append_of_pos blank, ← trimStart, ← trim]

theorem trim_append_blank {space : List Char} (blank : isBlank space = true) (cs : List Char) :
    trim (cs ++ space) = trim cs := by
  rw [← isBlank_reverse, isBlank, List.all_eq_true] at blank
  have ends : trimEnd (cs ++ space) = trimEnd cs := by
    rw [trimEnd, List.reverse_append, List.dropWhile_append_of_pos blank, ← trimEnd]
  rw [← trim_trimEnd, ends, trim_trimEnd]

/-- What is trimmed away is white space. -/
theorem exists_trim (cs : List Char) :
    ∃ front back, isBlank front = true ∧ isBlank back = true ∧ cs = front ++ (trim cs ++ back) := by
  let front := cs.takeWhile isBlankChar
  let back := (trimStart cs).reverse.takeWhile isBlankChar
  have start : front ++ trimStart cs = cs := List.takeWhile_append_dropWhile
  have ends : trim cs ++ back.reverse = trimStart cs := by
    have whole : back ++ (trimStart cs).reverse.dropWhile isBlankChar = (trimStart cs).reverse :=
      List.takeWhile_append_dropWhile
    rw [trim, trimEnd, ← List.reverse_append, whole, List.reverse_reverse]
  have blank : isBlank back.reverse = true := by
    rw [isBlank_reverse]
    exact List.all_takeWhile
  exact ⟨front, back.reverse, List.all_takeWhile, blank, by rw [ends, start]⟩

end CriteriaSearch.Text
