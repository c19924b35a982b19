import Bindery.Filter
import Bindery.Text.Template

/-!
# Delegate bindings

Delegate properties are bound by wrapper objects. A callback receives the parameters of the
delegate's signature, each read out of the block of memory that the host passes.

* `DelegateParam`: how a signature parameter is read.
* `Delegate`: a bound delegate property.
* `collectDelegates`: the delegates of a class and the records of those left out.
-/

namespace Bindery

/-- A parameter of a delegate's signature. -/
structure DelegateParam where
  name : Label
  /-- The type that callbacks receive. -/
  display : String
  /-- The slot to read; texts cannot be read out of the block. -/
  wire : Option Wire
  /-- The function that is applied to the slot's value. -/
  convert : Option String := none
deriving DecidableEq

/-- The expression that reads the parameter, given its position. -/
def DelegateParam.readText (p : DelegateParam) (index : Nat) : String :=
  match p.wire with
  | none => "\"\""
  | some wire =>
    let raw := "read_param(params, _offsets[" ++ toString index ++ "], \"" ++ wire.tag ++ "\")"
    match p.convert with
    | none => raw
    | some f => f ++ "(" ++ raw ++ ")"

/-- A bound delegate property. -/
structure Delegate where
  prop : Property
  signature : Signature
  /-- The method of the class that gives access to the delegate. -/
  accessor : String
  /-- The class of the wrapper objects. -/
  wrapper : String
  isMulticast : Bool
  params : List DelegateParam

/-- How a signature parameter is read, none if it cannot be. -/
def Datum.delegateParam? (ctx : Context) (p : Datum) : Option DelegateParam :=
  match p.kind with
  | .bool => some ⟨p.name, "bool", some .bool, none⟩
  | .float => some ⟨p.name, "float", some .f32, none⟩
  | .double => some ⟨p.name, "float", some .f64, none⟩
  | .byte | .enum =>
    match p.enum? with
    | none => if p.kind = .byte then some ⟨p.name, "int", some (.int .u8), none⟩ else none
    | some enum =>
      (ctx.enumRepr? enum).map fun repr =>
        ⟨p.name, "Optional[" ++ enum.spoken ++ "]", some (.int repr),
          some (Template.literal enum.spoken ++ ".from_value")⟩
  | .name => some ⟨p.name, "FNameHandle", some .name, some "FNameHandle"⟩
  | .string | .text => some ⟨p.name, "str", none, none⟩
  | .object | .classRef | .softObject | .weakObject | .interface =>
    if !p.mapping.supported then none
    else if p.mapping.conversion = .objectRef then
      some ⟨p.name, p.mapping.display.spoken, some .handle, some "UObjectRef"⟩
    else some ⟨p.name, "UObjectHandle", some .handle, none⟩
  | kind => kind.intType?.map fun t => ⟨p.name, "int", some (.int t), none⟩

/-- The parameters of a signature, or the reason why one cannot be read. Return values are not
passed to callbacks. -/
def readParams (ctx : Context) : List Datum → Except String (List DelegateParam)
  | [] => .ok []
  | p :: rest =>
    if p.direction = .result then readParams ctx rest
    else
      match p.delegateParam? ctx with
      | none => .error ("delegate parameter " ++ p.name.spoken ++ " cannot be read")
      | some param => (readParams ctx rest).map (param :: ·)

/-- The delegate of a property, or the reason why it cannot be bound. -/
def Property.delegate (ctx : Context) (owner : Label) (p : Property) : Except String Delegate :=
  match delegateSkip? ctx p, p.signature with
  | some reason, _ => .error reason
  | none, none => .error "delegate without signature"
  | none, some signature =>
    (readParams ctx signature.params).map fun params =>
      { prop := p, signature, params
        accessor := Naming.escapeReserved p.name.accessorName
        wrapper := owner.spoken ++ p.name.spoken ++ "Delegate"
        isMulticast := p.kind != .delegate }

/-- The delegates among the properties of a class, and the records of those left out because they
cannot be bound or because their accessor's name is in `taken`. -/
def collectDelegates (ctx : Context) (owner : Label) (taken : List String) :
    List Property → List Delegate × List Skip
  | [] => ([], [])
  | p :: rest =>
    if !p.kind.isDelegate then collectDelegates ctx owner taken rest
    else
      let skip := fun reason =>
        let (delegates, skips) := collectDelegates ctx owner taken rest
        (delegates, (⟨owner, p.name, reason⟩ : Skip) :: skips)
      match p.delegate ctx owner with
      | .error reason => skip reason
      | .ok d =>
        if taken.contains d.accessor then skip ("accessor name " ++ d.accessor ++ " already used")
        else
          let (delegates, skips) := collectDelegates ctx owner (d.accessor :: taken) rest
          (d :: delegates, skips)

end Bindery
