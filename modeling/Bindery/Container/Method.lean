import Bindery.Container.View
import Bindery.Value.Basic

/-!
# Methods of views

The operations of container views by name, with untyped arguments.

* `View.call`: calls a method of a view.
* `View.populate`, `View.contents`: all elements of a container, written and read one by one.

An array and a set have one codec, a map has one for its keys and one for its values.
-/

namespace Bindery

open Host

namespace View

variable {σ : Type} (view : View σ)

/-- A method: the number of its arguments, and what it does with them. -/
abbrev Method (σ : Type) := Arguments.Callable σ

/-- An operation without an answer. -/
def done (act : Act σ Unit) : Act σ Value := do
  act
  return .null

/-- A pair as a list of two. -/
def pairValue (pair : Value × Value) : Value := .list [pair.1, pair.2]

/-- Pairs as lists of two. -/
def pairsValue (pairs : List (Value × Value)) : Value := .list (pairs.map pairValue)

/-- The methods of an array. -/
def arrayMethod? (codec : ElementCodec) (method : String) : Option (Method σ) :=
  match method with
  | "len" => some (0, fun _ => view.length .array)
  | "getitem" => some (1, fun args => do view.arrayItem codec (← args.value 0))
  | "get" => some (1, fun args => do view.arrayGet codec (← args.value 0))
  | "set" | "setitem" =>
    some (2, fun args => done do view.arraySet codec (← args.value 0) (← args.value 1))
  | "push" => some (1, fun args => done do view.push codec (← args.value 0))
  | "extend" => some (1, fun args => done do view.extendArray codec (← args.items 0))
  | "remove" => some (1, fun args => done do view.arrayRemove (← args.value 0))
  | "clear" => some (0, fun _ => done (view.clear .array))
  | "to_list" => some (0, fun _ => .list <$> view.toList .array codec)
  | "set_all" => some (1, fun args => done do view.setAll codec (← args.items 0))
  | _ => none

/-- The methods of a set. -/
def setMethod? (codec : ElementCodec) (method : String) : Option (Method σ) :=
  match method with
  | "len" => some (0, fun _ => view.length .set)
  | "in" | "contains" => some (1, fun args => do view.contains codec (← args.value 0))
  | "add" => some (1, fun args => done do view.add codec (← args.value 0))
  | "extend" => some (1, fun args => done do view.extendSet codec (← args.items 0))
  | "remove" => some (1, fun args => done do view.setRemove codec (← args.value 0))
  | "clear" => some (0, fun _ => done (view.clear .set))
  | "get_element" => some (1, fun args => do view.setGet codec (← args.value 0))
  | "to_list" => some (0, fun _ => .list <$> view.toList .set codec)
  | _ => none

/-- The methods of a map. -/
def mapMethod? (keys values : ElementCodec) (method : String) : Option (Method σ) :=
  match method with
  | "len" => some (0, fun _ => view.length .map)
  | "find" | "get" => some (1, fun args => do view.find keys values (← args.value 0))
  | "in" => some (1, fun args => do return .bool (← view.hasKey keys values (← args.value 0)))
  | "add" =>
    some (2, fun args => done do view.addPair keys values (← args.value 0) (← args.value 1))
  | "remove" => some (1, fun args => done do view.mapRemove keys (← args.value 0))
  | "clear" => some (0, fun _ => done (view.clear .map))
  | "get_pair" => some (1, fun args => do pairValue <$> view.pairAt keys values (← args.value 0))
  | "items" => some (0, fun _ => pairsValue <$> view.pairList keys values)
  | "to_list" => some (0, fun _ => pairsValue <$> view.toPairs keys values)
  | "to_dict" => some (0, fun _ => pairsValue <$> view.toTable keys values)
  | _ => none

/-- What a view has besides its methods. -/
def isAttribute (shape : Shape) (member : String) : Bool :=
  (commonMembers ++ instanceMembers ++ ["owner", "prop", "__class_getitem__", "__orig_bases__",
    "__parameters__", "__slots__", "_is_protocol"]).contains member
    || match shape with
      | .map => ["key_codec", "value_codec"].contains member
      | .array | .set => member = "codec"

/-- The methods of a container of a shape. What goes beyond the codec of an array or a set is left
alone. -/
def method? (shape : Shape) (codecs : List ElementCodec) (method : String) :
    Act σ (Option (Method σ)) :=
  match shape, codecs with
  | .array, codec :: _ => return view.arrayMethod? codec method
  | .set, codec :: _ => return view.setMethod? codec method
  | .map, [keys, values] => return view.mapMethod? keys values method
  | .map, _ => throw .wrongType
  | _, [] => throw .noSuchIndex

/-- The operators of views, by the names of their methods. -/
def operators : List (String × String) := [("__len__", "len"), ("__getitem__", "getitem"),
  ("__setitem__", "setitem"), ("__contains__", "in")]

/-- The elements of a view one by one, which a map does not give. -/
def elements (shape : Shape) (codecs : List ElementCodec) : Act σ Value :=
  match shape, codecs with
  | .array, codec :: _ => .list <$> view.arrayList codec
  | .set, codec :: _ => .list <$> view.setList codec
  | .map, _ => throw .wrongType
  | _, [] => throw .noSuchIndex

/-- Calls the method of a container with a name. Going through its elements takes no arguments, and
minds none. -/
def call (shape : Shape) (codecs : List ElementCodec) (name : String) (args : Value) :
    Act σ Value := do
  if name = "iter" then view.elements shape codecs
  else match ← view.method? shape codecs ((operators.lookup name).getD name) with
    | some f => Arguments.apply f args
    | none =>
      if name = "_checked_len" then
        Arguments.apply (1, fun args => do checkedLength (← args.value 0)) args
      else throw (if isAttribute shape name then .wrongType else .noSuchMember)

/-- Adds elements to a container one by one; those of a map are pairs or the entries of a table. -/
def populate (shape : Shape) (codecs : List ElementCodec) (elements : Value) : Act σ Unit := do
  match shape, codecs with
  | .array, [codec] => view.extendArray codec (← elements.items)
  | .set, [codec] => view.extendSet codec (← elements.items)
  | .map, [keys, values] => view.addPairs keys values elements
  | _, _ => throw .wrongType

/-- The elements of a container, read one by one. -/
def contents (shape : Shape) (codecs : List ElementCodec) : Act σ Value :=
  match shape, codecs with
  | .array, [codec] => .list <$> view.arrayList codec
  | .set, [codec] => .list <$> view.setList codec
  | .map, [keys, values] => pairsValue <$> view.pairList keys values
  | _, _ => throw .wrongType

end View
end Bindery
