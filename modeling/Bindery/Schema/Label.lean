import Bindery.Document.Basic
import Bindery.Document.Convert
import Bindery.Fault
import Bindery.Naming

/-!
# Labels

Names as schema documents write them. Documents are not typed, so any value can stand where a name
belongs; it is kept as found and treated like a text for as long as that is possible.

* `Label.given?`: the label unless it counts as absent.
* `Label.isKey`: whether entities can be found by the label.
* `Label.number?`: the value of a label that is a number.
* `Label.same`, `Label.distinct`: labels that stand for one name.
* `Label.snakeCase?`, `Label.accessorName?`: names in the bindings, or why there is none.
* `Label.le`, `Label.comparable`: the order of labels, and the labels that have one.
-/

namespace Bindery

/-- A name as a schema writes it. -/
abbrev Label := Document

namespace Label

/-- The label unless it counts as absent. -/
def given? (l : Label) : Option Label := if l.isEmpty then none else some l

/-- Whether entities can be found by the label. -/
def isKey : Label → Bool
  | .list _ | .table _ => false
  | _ => true

/-- The value of a label that is a finite number or a boolean, as `n / 2 ^ k`. -/
def number? : Label → Option (Int × Nat)
  | .bool b => some (if b then 1 else 0, 0)
  | .int n => some (n, 0)
  | .float d => if d.isFinite then some d.scaled else none
  | _ => none

/-- Whether two labels stand for one name: numbers and booleans that are equal are one name. -/
def same (a b : Label) : Bool :=
  match a.number?, b.number? with
  | some (m, j), some (n, k) => m * (Nat.pow 2 k : Nat) = n * (Nat.pow 2 j : Nat)
  | _, _ => a = b

/-- The labels without those that stand for the name of an earlier one. -/
def distinct (ls : List Label) : List Label := ls.eraseDupsBy same

/-- The spelling of the label among others: that of the first one with its name. -/
def among (ls : List Label) (l : Label) : Label := (ls.find? l.same).getD l

theorem same_text (a b : String) : same (.text a) (.text b) = decide (a = b) := by
  simp [same, number?]

/-- Whether the label is a text. -/
def isText (l : Label) : Bool := l.text?.isSome

/-- Whether the label is one of some texts. -/
def isOneOf (l : Label) (names : List String) : Bool := l.text?.any names.contains

/-! ## Spelling -/

/-- Whether a piece of a name counts as a capital. -/
def isUpperPiece (piece : String) : Bool :=
  piece.toList.all (fun c => c.toNat < 128 && !c.isLower) && piece.toList.any Char.isUpper

/-- Whether a piece of a name counts as a lower case letter. -/
def isLowerPiece (piece : String) : Bool :=
  piece.toList.all (fun c => c.toNat < 128 && !c.isUpper) && piece.toList.any Char.isLower

/-- Whether a piece of a name counts as a digit. -/
def isDigitPiece (piece : String) : Bool := !piece.isEmpty && piece.toList.all Text.isDigit

/-- Whether a word starts at a capital piece after `before` and before `after`. -/
def startsWord (before : Option String) (after : Option Document) : Bool :=
  before.any fun p => isLowerPiece p || isDigitPiece p
    || isUpperPiece p && (after.bind Document.text?).any isLowerPiece

/-- Snake case of a name that a list spells piece by piece, after the piece `before`. Every piece
has to be a text. -/
def spellPieces? (before : Option String) : List Document → Except Fault String
  | [] => .ok ""
  | .text p :: rest => do
    let tail ← spellPieces? (some p) rest
    if !isUpperPiece p then return p ++ tail
    else if startsWord before rest.head? then return "_" ++ p.toLower ++ tail
    else return p.toLower ++ tail
  | _ :: _ => .error .noSuchMember

/-- Snake case of a name that the keys of a table spell. Their neighbours cannot be asked for, so
a capital can only come first. -/
def spellKeys? : List (String × Document) → Except Fault String
  | [] => .ok ""
  | e :: rest =>
    if rest.any fun k => isUpperPiece k.1 then .error .noSuchKey
    else .ok (String.join ((if isUpperPiece e.1 then e.1.toLower else e.1) :: rest.map (·.1)))

/-- The snake case of a label. -/
def snakeCase? : Label → Except Fault String
  | .text s => .ok (Naming.snakeCase s)
  | .list items => spellPieces? none items
  | .table entries => spellKeys? entries
  | _ => .error .wrongType

/-- The snake case of a label without the `b` of a boolean name. -/
def accessorName? : Label → Except Fault String
  | .text s => .ok (Naming.accessorName s)
  | .list (.text "b" :: .text c :: rest) =>
    spellPieces? none
      (if isUpperPiece c then .text c :: rest else .text "b" :: .text c :: rest)
  | .list items => spellPieces? none items
  | .table (_ :: _ :: _) => .error .noSuchKey
  | l => l.snakeCase?

/-- The snake case of a label that has one. -/
def snakeCase (l : Label) : String := l.snakeCase?.toOption.getD ""

/-- The name of a label's accessor, if it has one. -/
def accessorName (l : Label) : String := l.accessorName?.toOption.getD ""

/-- The identifier of a label. -/
def identifier (l : Label) : String := Naming.escapeReserved l.snakeCase

@[simp] theorem snakeCase_text (s : String) : snakeCase (.text s) = Naming.snakeCase s := rfl

@[simp] theorem identifier_text (s : String) : identifier (.text s) = Naming.identifier s := rfl

/-! ## Order -/

/-- The order of labels: numbers by their values, before everything else by its text. -/
def le (a b : Label) : Bool :=
  match a.number?, b.number? with
  | some (m, j), some (n, k) => m * (Nat.pow 2 k : Nat) ≤ n * (Nat.pow 2 j : Nat)
  | none, none => Text.le a.spoken b.spoken
  | x, _ => x.isSome

/-- Whether labels can be put in order: all are texts, all are numbers, or there is only one. -/
def comparable (ls : List Label) : Bool :=
  ls.length ≤ 1 || ls.all isText || ls.all fun l => l.number?.isSome

/-- Lexicographic order of label lists. -/
def listLE : List Label → List Label → Bool
  | [], _ => true
  | _ :: _, [] => false
  | a :: as, b :: bs => if a.same b then listLE as bs else a.le b

/-- The entries in ascending order of their labels. -/
def sortOn {α : Type} (key : α → Label) (xs : List α) : List α :=
  xs.mergeSort fun a b => (key a).le (key b)

/-- The entries in ascending lexicographic order of keys of several labels. -/
def sortOnList {α : Type} (key : α → List Label) (xs : List α) : List α :=
  xs.mergeSort fun a b => listLE (key a) (key b)

end Label
end Bindery
