import Bindery.Text.Quoted
import Bindery.Value.Basic

/-!
# Display of values

* `Value.display`: the text that shows a value.
* `Value.spoken`: a text as it is, any other value by its display.
-/

namespace Bindery

/-- A byte inside a quoted byte string: printable ASCII stands for itself. -/
def Bytes.escapeIn (q : Char) (b : UInt8) : List Char :=
  if 0x80 ≤ b then '\\' :: 'x' :: Text.hexDigits 2 b.toNat
  else Text.escapeIn q (Char.ofNat b.toNat)

/-- The quoted literal of a byte string. -/
def Bytes.quote (data : Bytes) : String :=
  let q := Text.quoteFor (data.map fun b => Char.ofNat b.toNat)
  String.ofList ('b' :: q :: (data.flatMap (Bytes.escapeIn q) ++ [q]))

namespace Value

/-- An address in hexadecimal. Other values than integers have no such form. -/
def addressText (v : Value) : Except Fault String :=
  match v, v.index? with
  | _, some n =>
    .ok ((if n < 0 then "-0x" else "0x") ++ String.ofList (Nat.toDigits 16 n.natAbs))
  | text _, none | float _, none => .error .malformed
  | _, none => .error .wrongType

/-- How messages show a handle. -/
def handleText (h : Value) : Except Fault String :=
  if h.isTruthy then h.addressText else .ok "null"

mutual

/-- The text that shows a value, if it has one. -/
def display : Value → Except Fault String
  | null => .ok "None"
  | bool b => .ok (if b then "True" else "False")
  | int n => .ok (toString n)
  | float d => .ok d.text
  | text s => .ok (Text.quote s)
  | bytes data => .ok data.quote
  | buffer data => .ok ("bytearray(" ++ data.quote ++ ")")
  | list items => do return "[" ++ ", ".intercalate (← displayItems items) ++ "]"
  | table entries => do
    return "\x7b" ++ ", ".intercalate (← displayEntries entries) ++ "\x7d"
  | ref h => do return "UObjectRef(" ++ (← handleText h) ++ ")"
  | weak index => do return "WeakObjectRef(" ++ (← addressText index) ++ ")"
  | name index => do return "FNameHandle(value=" ++ (← display index) ++ ")"
  | struct data => .ok ("OwnedStruct(" ++ toString data.length ++ " bytes)")
  | object c h => do return c.name ++ "(" ++ (← handleText h) ++ ")"
  | record c _ => .ok c.name
  | member v => .ok (toString v.value)
  | cls c => .ok c.name

/-- The texts of list items. -/
def displayItems : List Value → Except Fault (List String)
  | [] => .ok []
  | v :: rest => do
    let head ← display v
    return head :: (← displayItems rest)

/-- The texts of table entries. -/
def displayEntries : List (Value × Value) → Except Fault (List String)
  | [] => .ok []
  | (k, v) :: rest => do
    let head := (← display k) ++ ": " ++ (← display v)
    return head :: (← displayEntries rest)

end

/-- A text as it is, any other value by its display. -/
def spoken : Value → Except Fault String
  | text s => .ok s
  | v => v.display

end Value
end Bindery
