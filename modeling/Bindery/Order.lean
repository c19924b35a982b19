import Bindery.Text.CodePoint

/-!
# Orders

Sorting by text keys. Texts compare by code points, and entries with equal keys keep their order.
-/

namespace Bindery

/-- The entries in ascending order of a text key. -/
def sortOn {α : Type} (key : α → String) (xs : List α) : List α :=
  xs.mergeSort fun a b => Text.le (key a) (key b)

/-- Texts in ascending order. -/
def sortTexts (xs : List String) : List String := sortOn id xs

/-- Lexicographic order of text lists. -/
def textsLE : List String → List String → Bool
  | [], _ => true
  | _ :: _, [] => false
  | a :: as, b :: bs => if a = b then textsLE as bs else Text.le a b

/-- The entries in ascending lexicographic order of a key of several texts. -/
def sortOnTexts {α : Type} (key : α → List String) (xs : List α) : List α :=
  xs.mergeSort fun a b => textsLE (key a) (key b)

end Bindery
