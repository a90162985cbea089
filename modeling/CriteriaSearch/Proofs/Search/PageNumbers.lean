import CriteriaSearch.Search.Page
import Mathlib.Tactic.ByContra

namespace CriteriaSearch

/-!
# Numbers of pages

A page knows the window that it was cut from by its number alone: how often
the size of a page fits in front of the window, counted from one.  If windows
start at multiples of the size, the window of a page and the matches behind it
can be told from the number.  A window that starts elsewhere lies across two
pages.  It has the number of the first of them, so it can be followed by a
page that holds nothing new, but no match behind it is ever left out.

All numbers are words, and none of the sums leaves them: a position is at most
half as large as a word can be, and there are fewer pages than matches unless
every match has a page to itself.
-/

namespace Page

variable {α : Type} {skip pageSize total : UInt64}

/-- A page of the window of `size` matches behind the first `skip` of `total`
matches.  The numbers of the page are what they would be without a bound on
words. -/
structure Locates (page : Page α) (skip size total : Nat) : Prop where
  number : page.page.toNat = skip / size + 1
  pages : ∀ count, page.totalPages.toNat ≤ count ↔ total ≤ count * size
  next_iff : page.hasNextPage = true ↔ page.page < page.totalPages
  last : page.hasNextPage = false → total ≤ skip + size
  aligned : size ∣ skip → (page.hasNextPage = true ↔ skip + size < total)

/-- There are as many pages as it takes to hold all documents. -/
theorem toNat_pagesFor (positive : 0 < pageSize.toNat) :
    (pagesFor pageSize total).toNat = (total.toNat + pageSize.toNat - 1) / pageSize.toNat := by
  have present : pageSize ≠ 0 := by
    rintro rfl
    exact Nat.lt_irrefl 0 positive
  have divided := Nat.div_add_mod total.toNat pageSize.toNat
  have remainder := Nat.mod_lt total.toNat positive
  have even : total % pageSize = 0 ↔ total.toNat % pageSize.toNat = 0 := by
    rw [← UInt64.toNat_inj, UInt64.toNat_mod]
    rfl
  rw [pagesFor, if_neg present]
  split
  · next full =>
    rw [even] at full
    rw [full] at divided
    rw [UInt64.toNat_div, eq_comm, Nat.div_eq_iff positive, Nat.mul_comm]
    omega
  · next rest =>
    rw [even] at rest
    -- A page of one document leaves no rest, so one more page still fits a word.
    have several : 2 ≤ pageSize.toNat := by
      by_contra single
      have one : pageSize.toNat = 1 := by omega
      rw [one] at rest
      exact rest (Nat.mod_one _)
    have half : total.toNat / pageSize.toNat ≤ total.toNat / 2 :=
      Nat.div_le_div_left several (by decide)
    have bounded := total.toNat_lt
    rw [UInt64.toNat_add, UInt64.toNat_div, UInt64.toNat_one, Nat.mod_eq_of_lt (by omega),
      eq_comm, Nat.div_eq_iff positive, Nat.add_mul, Nat.mul_comm]
    omega

theorem toNat_page_ofWindow (positive : 0 < pageSize.toNat)
    (small : skip.toNat < 9223372036854775808) (docs : List α) :
    (ofWindow skip pageSize total docs).page.toNat = skip.toNat / pageSize.toNat + 1 := by
  have present : pageSize ≠ 0 := by
    rintro rfl
    exact Nat.lt_irrefl 0 positive
  have bounded := Nat.div_le_self skip.toNat pageSize.toNat
  simp only [ofWindow, if_neg present]
  rw [UInt64.toNat_add, UInt64.toNat_div, UInt64.toNat_one]
  exact Nat.mod_eq_of_lt (by omega)

/-- A page is followed by another one if its number is below their count. -/
theorem hasNextPage_ofWindow_iff (docs : List α) :
    (ofWindow skip pageSize total docs).hasNextPage = true ↔
      (ofWindow skip pageSize total docs).page.toNat < (pagesFor pageSize total).toNat := by
  simp only [ofWindow, decide_eq_true_eq]
  exact UInt64.lt_iff_toNat_lt

theorem toNat_pagesFor_le_iff (positive : 0 < pageSize.toNat) {count : Nat} :
    (pagesFor pageSize total).toNat ≤ count ↔ total.toNat ≤ count * pageSize.toNat := by
  rw [toNat_pagesFor positive, Nat.div_le_iff_le_mul_add_pred positive, Nat.mul_comm]
  omega

/-- No further page is announced exactly if the matches fit the pages up to
this one. -/
theorem hasNextPage_ofWindow_eq_false_iff (positive : 0 < pageSize.toNat)
    (small : skip.toNat < 9223372036854775808) (docs : List α) :
    (ofWindow skip pageSize total docs).hasNextPage = false ↔
      total.toNat ≤ skip.toNat / pageSize.toNat * pageSize.toNat + pageSize.toNat := by
  rw [← Bool.not_eq_true, hasNextPage_ofWindow_iff, Nat.not_lt, toNat_pagesFor_le_iff positive,
    toNat_page_ofWindow positive small, Nat.add_mul, Nat.one_mul]

theorem locates_ofWindow (positive : 0 < pageSize.toNat)
    (small : skip.toNat < 9223372036854775808) (docs : List α) :
    (ofWindow skip pageSize total docs).Locates skip.toNat pageSize.toNat total.toNat where
  number := toNat_page_ofWindow positive small docs
  pages _ := toNat_pagesFor_le_iff positive
  next_iff := by
    rw [hasNextPage_ofWindow_iff, UInt64.lt_iff_toNat_lt]
    rfl
  last final := by
    rw [hasNextPage_ofWindow_eq_false_iff positive small] at final
    have begun := Nat.div_mul_le_self skip.toNat pageSize.toNat
    omega
  aligned multiple := by
    rw [← Bool.not_eq_false, hasNextPage_ofWindow_eq_false_iff positive small,
      Nat.div_mul_cancel multiple, Nat.not_le]

/-- Every window of a size makes a page whose numbers tell what lies behind
it, and a window without a size makes a page without a number. -/
theorem ofWindow_locates (skip total : UInt64) (docs : List α) :
    (∀ pageSize : UInt64, 0 < pageSize.toNat → skip.toNat < 9223372036854775808 →
      (ofWindow skip pageSize total docs).Locates skip.toNat pageSize.toNat total.toNat) ∧
    (ofWindow skip 0 total docs).page = 0 ∧ (ofWindow skip 0 total docs).totalPages = 0 ∧
    (ofWindow skip 0 total docs).hasNextPage = false := by
  constructor
  · intro pageSize positive small
    exact locates_ofWindow positive small docs
  · exact ⟨rfl, rfl, rfl⟩

/-- The last position that a window can start at, with the shortest pages and
as many matches as can be counted. -/
theorem ofWindow_locates_at_the_limits :
    let skip : UInt64 := 9223372036854775807
    let total : UInt64 := 18446744073709551615
    0 < UInt64.toNat 1 ∧ skip.toNat < 9223372036854775808 ∧
      (ofWindow skip 1 total [()]).Locates 9223372036854775807 1 18446744073709551615 := by
  intro skip total
  have positive : 0 < UInt64.toNat 1 := by decide
  have small : skip.toNat < 9223372036854775808 := by decide
  exact ⟨positive, small, (ofWindow_locates skip total [()]).1 1 positive small⟩

/-- A window across two pages can have a next page and nothing behind it. -/
example : (ofWindow 5 10 12 [()]).hasNextPage = true := by decide

end Page

end CriteriaSearch
