import Bindery.Proofs.Document
import Bindery.Proofs.Outcome
import Bindery.Schema.Record

/-!
# Records and what they are read from

An entry of a schema describes a record if each of its values is what the record has in its place.
Reading finds the record that an entry describes, or reports an entry that describes none.

* `DescribesProperty`, `DescribesFunction`, `DescribesClass`, `DescribesStruct`, `DescribesEnum`:
  what an entry says. Null describes an absent property.
* `SchemaRecord.finds`, `propertiesAt_eq_ok_iff`, `readClass_eq_ok_iff` and its like: what is read
  is what is described.
* `SchemaRecord.read_eq_ok_iff`: so are the sections.
* `SchemaError.IsReported`: an error that names an entry.
* `SchemaRecord.Refuses`: a reader that fails in no other way, as all do on finite numbers.
* `SchemaRecord.refuses_of_isFinite`: so does the whole schema.
-/

namespace Bindery

/-! ## What entries describe -/

/-- The flag word at a key; an absent or empty value is zero. -/
def HoldsFlags (d : Document) (key : String) (flags : Int) : Prop :=
  if (d.getD key).isEmpty then flags = 0
  else ∃ n, (d.getD key).toInt = .ok n ∧ flags = IntType.u32.wrap n

/-- The integer at a key, with the value of an absent one. -/
def HoldsInt (d : Document) (key : String) (absent n : Int) : Prop :=
  ((d.get? key).getD (.int absent)).toInt = .ok n

/-- The members at a key; an absent or empty value has none. -/
def HoldsMembers (d : Document) (key : String) (items : List Document) : Prop :=
  if (d.getD key).isEmpty then items = [] else (d.getD key).members? = some items

/-- The values of a property other than its signature and its parts. -/
structure HoldsFields (d : Document) (p : PropertyRecord) : Prop where
  name : d.get? "name" = some p.name
  type : d.get? "type" = some p.type
  flags : HoldsInt d "prop_flags" 0 p.flags
  arrayDim : HoldsInt d "array_dim" 1 p.arrayDim
  enumName : p.enumName = d.getD "enum_name"
  enumCppName : p.enumCppName = d.getD "enum_cpp_name"
  enumCppForm : p.enumCppForm = d.getD "enum_cpp_form"
  enumUnderlying : p.enumUnderlying = d.getD "enum_underlying_type"
  className : p.className = d.getD "class_name"
  metaClassName : p.metaClassName = d.getD "meta_class_name"
  structName : p.structName = d.getD "struct_name"
  interfaceName : p.interfaceName = d.getD "interface_name"
  getter : p.getter = d.getD "getter"
  setter : p.setter = d.getD "setter"
  default : p.default = d.getD "default"

mutual

/-- The property that an entry describes; null stands for an absent one. -/
inductive DescribesProperty : Document → Option PropertyRecord → Prop where
  | absent : DescribesProperty .null none
  | given {d : Document} {p : PropertyRecord} : HoldsFields d p →
      DescribesSignature (d.getD "func_info") p.signature →
      DescribesProperty (d.getD "inner_prop") p.inner →
      DescribesProperty (d.getD "key_prop") p.key →
      DescribesProperty (d.getD "value_prop") p.value →
      DescribesProperty (d.getD "element_prop") p.element →
      DescribesProperty d (some p)

/-- The signature that an entry describes, which only a table does. -/
inductive DescribesSignature : Document → Option SignatureRecord → Prop where
  | absent {d : Document} : d.isTable = false → DescribesSignature d none
  | bare {d : Document} : d.isTable = true → d.getD "params" = .null →
      DescribesSignature d (some ⟨(d.get? "name").getD (.text ""), none⟩)
  | given {d : Document} {items : List Document} {params : List (Option PropertyRecord)} :
      d.isTable = true → (d.getD "params").members? = some items →
      List.Forall₂ DescribesProperty items params →
      DescribesSignature d (some ⟨(d.get? "name").getD (.text ""), some params⟩)

end

/-- The properties at a key. -/
def HoldsProperties (d : Document) (key : String) (ps : List (Option PropertyRecord)) : Prop :=
  ∃ items, HoldsMembers d key items ∧ List.Forall₂ DescribesProperty items ps

/-- The function that an entry describes. -/
structure DescribesFunction (d : Document) (f : FunctionRecord) : Prop where
  name : d.get? "name" = some f.name
  flags : HoldsFlags d "func_flags" f.flags
  isStatic : f.isStatic = !(d.getD "is_static").isEmpty
  params : HoldsProperties d "params" f.params

/-- The class that an entry describes. -/
structure DescribesClass (d : Document) (c : ClassRecord) : Prop where
  name : d.get? "name" = some c.name
  cppName : d.get? "cpp_name" = some c.cppName
  package : d.get? "package" = some c.package
  header : c.header = (d.get? "header").getD (.text "")
  flags : HoldsFlags d "class_flags" c.flags
  super : c.super = d.getD "super"
  interfaces : HoldsMembers d "interfaces" c.interfaces
  props : HoldsProperties d "props" c.props
  funcs : ∃ items, HoldsMembers d "funcs" items ∧ List.Forall₂ DescribesFunction items c.funcs

/-- The struct that an entry describes. -/
structure DescribesStruct (d : Document) (s : StructRecord) : Prop where
  name : d.get? "name" = some s.name
  cppName : d.get? "cpp_name" = some s.cppName
  package : d.get? "package" = some s.package
  header : s.header = (d.get? "header").getD (.text "")
  flags : HoldsFlags d "struct_flags" s.flags
  super : s.super = d.getD "super"
  hasStaticStruct : s.hasStaticStruct = !(d.getD "has_static_struct").isEmpty
  props : HoldsProperties d "props" s.props

/-- The variant that an entry describes by two members. -/
def DescribesPair (d : Document) (pair : String × Int) : Prop :=
  ∃ name value, d.members? = some [name, value] ∧ pair.1 = name.spoken ∧ value.toInt = .ok pair.2

/-- The enum that an entry describes. -/
structure DescribesEnum (d : Document) (e : EnumRecord) : Prop where
  name : d.get? "name" = some e.name
  cppName : d.get? "cpp_name" = some e.cppName
  package : d.get? "package" = some e.package
  underlying : e.underlying = (d.get? "underlying_type").getD (.text "uint8")
  cppForm : HoldsInt d "cpp_form" 0 e.cppForm
  pairs : ∃ items, HoldsMembers d "pairs" items ∧ List.Forall₂ DescribesPair items e.pairs

/-- An error that names the entry that cannot be read. -/
def SchemaError.IsReported : SchemaError → Prop
  | missingField _ _ _ | malformed _ _ => True
  | _ => False

namespace SchemaRecord

open Outcome

/-! ## What readers find -/

section Found

variable {kind : EntryKind} {entry d : Document} {key : String}

/-- A value that has to be there is found just if it is there, in a table. -/
private theorem field_eq_ok_iff {v : Document} :
    field kind d key = .ok v ↔ d.get? key = some v := by
  unfold field Document.get?
  cases d with
  | table entries => cases hv : Assoc.get? key entries <;> simp [hv]
  | _ => simp

/-- Naming the entry of a failure leaves results as they are. -/
private theorem within_eq_ok_iff {α : Type} {x : Except Document.ConversionFault α} {a : α} :
    within kind entry x = .ok a ↔ x = .ok a := by
  rcases x with (_ | _) | _ <;> simp [within]

private theorem intAt_eq_ok_iff {absent n : Int} :
    intAt kind d key absent = .ok n ↔ HoldsInt d key absent n := within_eq_ok_iff

private theorem flagsAt_eq_ok_iff {flags : Int} :
    flagsAt kind d key = .ok flags ↔ HoldsFlags d key flags := by
  unfold flagsAt HoldsFlags
  split
  · simp [eq_comm]
  · simp only [bind_eq_ok_iff, within_eq_ok_iff, pure, Except.pure, Except.ok.injEq]
    exact exists_congr fun n => and_congr_right fun _ => eq_comm

private theorem membersOf_eq_ok_iff {items : List Document} :
    membersOf kind entry d = .ok items ↔ d.members? = some items := by
  unfold membersOf
  cases d.members? <;> simp

/-- Members are found as they are described, none of an absent or empty value. -/
private theorem membersAt_eq_ok_iff {items : List Document} :
    membersAt kind d key = .ok items ↔ HoldsMembers d key items := by
  unfold membersAt HoldsMembers
  split
  · simp [eq_comm]
  · exact membersOf_eq_ok_iff

private theorem readProperties_eq_mapM (n : Nat) (items : List Document) :
    readProperties n items = items.mapM (readProperty n) := by
  induction items with
  | nil =>
    rw [readProperties, List.mapM_nil]
    rfl
  | cons d rest ih =>
    rw [readProperties, List.mapM_cons, ih]

/-- Whatever is no table is taken for an absent signature. -/
private theorem readSignature_of_not_isTable {n : Nat} (h : d.isTable = false) :
    readSignature (n + 1) entry d = .ok none := by
  cases d with
  | table entries => cases h
  | _ => rw [readSignature]; simp

end Found

/-! ### Properties -/

section Properties

variable {owner d : Document} {n : Nat}

/-- A table gives a signature, without parameters if they are null. -/
private theorem readSignature_of_isTable (h : d.isTable = true) :
    readSignature (n + 1) owner d =
      if d.getD "params" = .null then .ok (some ⟨(d.get? "name").getD (.text ""), none⟩)
      else do
        let items ← membersOf .property owner (d.getD "params")
        let params ← items.mapM (readProperty n)
        return some ⟨(d.get? "name").getD (.text ""), some params⟩ := by
  obtain ⟨entries, rfl⟩ := Document.isTable_iff.1 h
  rw [readSignature]
  split
  · next hnull => rw [if_pos hnull]; rfl
  · next hnull => simp only [if_neg hnull, readProperties_eq_mapM]

/-- Properties that nest no deeper than the bound are found as their entries describe them. -/
def FindsProperties (n : Nat) : Prop :=
  ∀ d p, d.depth ≤ n → (readProperty n d = .ok p ↔ DescribesProperty d p)

/-- Signatures that nest no deeper than the bound are found as their entries describe them. -/
def FindsSignatures (n : Nat) : Prop :=
  ∀ owner d s, d.depth ≤ n → (readSignature n owner d = .ok s ↔ DescribesSignature d s)

/-- One level of a property, given what is found below it. -/
theorem findsProperties_succ (hproperty : FindsProperties n) (hsignature : FindsSignatures n) :
    FindsProperties (n + 1) := by
  intro d p hd
  by_cases hnull : d = .null
  · subst hnull
    rw [readProperty]
    constructor
    · intro h
      obtain rfl := Except.ok.inj h
      exact .absent
    · rintro (_ | ⟨⟨hname, _⟩⟩)
      · rfl
      · -- Null has no name, so it describes no property.
        cases hname
  · rw [readProperty]
    swap
    · exact hnull
    simp only [bind_eq_ok_iff, field_eq_ok_iff, intAt_eq_ok_iff, pure, Except.pure,
      Except.ok.injEq]
    -- An entry with a name is deeper than what it has at its keys.
    have hpart {v : Document} (hv : d.get? "name" = some v) (key : String) :
        (d.getD key).depth ≤ n := Nat.le_of_lt_succ (Nat.lt_of_lt_of_le (d.depth_getD_lt hv key) hd)
    constructor
    · rintro ⟨name, hname, type, htype, flags, hflags, dim, hdim, signature, hs, inner, hi, key, hk,
        value, hv, element, he, rfl⟩
      have hle := hpart hname
      exact .given
        ⟨hname, htype, hflags, hdim, rfl, rfl, rfl, rfl, rfl, rfl, rfl, rfl, rfl, rfl, rfl⟩
        ((hsignature _ _ _ (hle _)).1 hs) ((hproperty _ _ (hle _)).1 hi)
        ((hproperty _ _ (hle _)).1 hk) ((hproperty _ _ (hle _)).1 hv)
        ((hproperty _ _ (hle _)).1 he)
    · rintro (_ | ⟨hfields, hs, hi, hk, hv, he⟩)
      · exact absurd rfl hnull
      · next p =>
        have hle := hpart hfields.name
        refine ⟨_, hfields.name, _, hfields.type, _, hfields.flags, _, hfields.arrayDim,
          _, (hsignature _ _ _ (hle _)).2 hs, _, (hproperty _ _ (hle _)).2 hi,
          _, (hproperty _ _ (hle _)).2 hk, _, (hproperty _ _ (hle _)).2 hv,
          _, (hproperty _ _ (hle _)).2 he, ?_⟩
        -- All fields of the record are told by the entry.
        rw [← hfields.enumName, ← hfields.enumCppName, ← hfields.enumCppForm,
          ← hfields.enumUnderlying, ← hfields.className, ← hfields.metaClassName,
          ← hfields.structName, ← hfields.interfaceName, ← hfields.getter, ← hfields.setter,
          ← hfields.default]
        cases p
        rfl

/-- One level of a signature. -/
theorem findsSignatures_succ (hproperty : FindsProperties n) : FindsSignatures (n + 1) := by
  intro owner d s hd
  cases htable : d.isTable with
  | false =>
    rw [readSignature_of_not_isTable htable]
    constructor
    · intro h
      obtain rfl := Except.ok.inj h
      exact .absent htable
    · rintro (_ | ⟨h, _⟩ | ⟨h, _⟩)
      · rfl
      · cases htable.symm.trans h
      · cases htable.symm.trans h
  | true =>
    rw [readSignature_of_isTable htable]
    split
    · next hnull =>
      constructor
      · intro h
        obtain rfl := Except.ok.inj h
        exact .bare htable hnull
      · rintro (h | _ | ⟨_, hitems, _⟩)
        · cases htable.symm.trans h
        · rfl
        · rw [hnull] at hitems
          cases hitems
    · next hnull =>
      have hlt := Document.depth_lt_of_get? (Document.get?_of_getD_ne_null hnull)
      have hmembers {items : List Document} (h : (d.getD "params").members? = some items)
          (params : List (Option PropertyRecord)) :
          items.mapM (readProperty n) = .ok params ↔ List.Forall₂ DescribesProperty items params :=
        mapM_eq_ok_iff_of fun m hm p =>
          hproperty m p (by have := Document.depth_le_of_members? h m hm; omega)
      simp only [bind_eq_ok_iff, membersOf_eq_ok_iff, pure, Except.pure, Except.ok.injEq]
      constructor
      · rintro ⟨items, hitems, params, hparams, rfl⟩
        exact .given htable hitems ((hmembers hitems params).1 hparams)
      · rintro (h | ⟨_, h⟩ | ⟨_, hitems, hparams⟩)
        · cases htable.symm.trans h
        · exact absurd h hnull
        · exact ⟨_, hitems, _, (hmembers hitems _).2 hparams, rfl⟩

/-- The readers of properties and signatures call each other, so both are treated at once, by
induction on the bound. -/
theorem finds (n : Nat) : FindsProperties n ∧ FindsSignatures n := by
  induction n with
  | zero =>
    have hpos : ∀ d : Document, ¬ d.depth ≤ 0 := fun d => Nat.not_le_of_gt d.depth_pos
    exact ⟨fun d _ hd => absurd hd (hpos d), fun _ d _ hd => absurd hd (hpos d)⟩
  | succ n ih => exact ⟨findsProperties_succ ih.1 ih.2, findsSignatures_succ ih.1⟩

end Properties

/-! ### Entities -/

section Entities

variable {kind : EntryKind} {d : Document} {key : String}

private theorem depth_le_of_holdsMembers {items : List Document} (h : HoldsMembers d key items) :
    ∀ m ∈ items, m.depth ≤ d.depth := by
  unfold HoldsMembers at h
  split at h
  · next hempty =>
    subst h
    exact nofun
  · next hempty =>
    have hne : d.getD key ≠ .null := fun hnull => hempty (by rw [hnull]; rfl)
    have hlt := Document.depth_lt_of_get? (Document.get?_of_getD_ne_null hne)
    exact fun m hm => Nat.le_trans (Document.depth_le_of_members? h m hm) (Nat.le_of_lt hlt)

/-- The properties at a key nest no deeper than the entry, which the bound is taken from. -/
theorem propertiesAt_eq_ok_iff {ps : List (Option PropertyRecord)} :
    propertiesAt kind d key = .ok ps ↔ HoldsProperties d key ps := by
  unfold propertiesAt HoldsProperties
  simp only [bind_eq_ok_iff, membersAt_eq_ok_iff, readProperties_eq_mapM]
  exact exists_congr fun items => and_congr_right fun hitems =>
    mapM_eq_ok_iff_of fun m hm p => (finds _).1 m p (depth_le_of_holdsMembers hitems m hm)

/-- A function is read as its entry describes it. -/
theorem readFunction_eq_ok_iff {f : FunctionRecord} :
    readFunction d = .ok f ↔ DescribesFunction d f := by
  unfold readFunction
  simp only [bind_eq_ok_iff, field_eq_ok_iff, flagsAt_eq_ok_iff, propertiesAt_eq_ok_iff, pure,
    Except.pure, Except.ok.injEq]
  constructor
  · rintro ⟨name, hname, flags, hflags, params, hparams, rfl⟩
    exact ⟨hname, hflags, rfl, hparams⟩
  · obtain ⟨name, flags, isStatic, params⟩ := f
    rintro ⟨hname, hflags, rfl, hparams⟩
    exact ⟨_, hname, _, hflags, _, hparams, rfl⟩

/-- A class is read as its entry describes it, and so are its functions. -/
theorem readClass_eq_ok_iff {c : ClassRecord} : readClass d = .ok c ↔ DescribesClass d c := by
  unfold readClass
  simp only [bind_eq_ok_iff, field_eq_ok_iff, flagsAt_eq_ok_iff, membersAt_eq_ok_iff,
    propertiesAt_eq_ok_iff, mapM_eq_ok_iff, readFunction_eq_ok_iff, pure, Except.pure,
    Except.ok.injEq]
  constructor
  · rintro ⟨name, hname, cppName, hcppName, package, hpackage, flags, hflags, interfaces,
      hinterfaces, props, hprops, items, hitems, funcs, hfuncs, rfl⟩
    exact ⟨hname, hcppName, hpackage, rfl, hflags, rfl, hinterfaces, hprops, items, hitems, hfuncs⟩
  · obtain ⟨name, cppName, package, header, flags, super, interfaces, props, funcs⟩ := c
    rintro ⟨hname, hcppName, hpackage, rfl, hflags, rfl, hinterfaces, hprops, items, hitems, hfuncs⟩
    exact ⟨_, hname, _, hcppName, _, hpackage, _, hflags, _, hinterfaces, _, hprops, items, hitems,
      _, hfuncs, rfl⟩

theorem readStruct_eq_ok_iff {s : StructRecord} : readStruct d = .ok s ↔ DescribesStruct d s := by
  unfold readStruct
  simp only [bind_eq_ok_iff, field_eq_ok_iff, flagsAt_eq_ok_iff, propertiesAt_eq_ok_iff, pure,
    Except.pure, Except.ok.injEq]
  constructor
  · rintro ⟨name, hname, cppName, hcppName, package, hpackage, flags, hflags, props, hprops, rfl⟩
    exact ⟨hname, hcppName, hpackage, rfl, hflags, rfl, rfl, hprops⟩
  · obtain ⟨name, cppName, package, header, flags, super, hasStaticStruct, props⟩ := s
    rintro ⟨hname, hcppName, hpackage, rfl, hflags, rfl, rfl, hprops⟩
    exact ⟨_, hname, _, hcppName, _, hpackage, _, hflags, _, hprops, rfl⟩

private theorem readPair_eq_ok_iff {entry : Document} {pair : String × Int} :
    readPair entry d = .ok pair ↔ DescribesPair d pair := by
  unfold readPair DescribesPair
  split
  · next name value hmembers =>
    simp only [bind_eq_ok_iff, within_eq_ok_iff, pure, Except.pure, Except.ok.injEq, hmembers,
      Option.some.injEq, List.cons.injEq, and_true]
    constructor
    · rintro ⟨n, hn, rfl⟩
      exact ⟨name, value, ⟨rfl, rfl⟩, rfl, hn⟩
    · rintro ⟨_, _, ⟨rfl, rfl⟩, hname, hn⟩
      exact ⟨_, hn, by rw [← hname]⟩
  · next hmembers => exact iff_of_false nofun fun ⟨name, value, h, _⟩ => hmembers name value h

/-- An enum is read as its entry describes it, pair by pair. -/
theorem readEnum_eq_ok_iff {e : EnumRecord} : readEnum d = .ok e ↔ DescribesEnum d e := by
  unfold readEnum
  simp only [bind_eq_ok_iff, field_eq_ok_iff, intAt_eq_ok_iff, membersAt_eq_ok_iff, mapM_eq_ok_iff,
    readPair_eq_ok_iff, pure, Except.pure, Except.ok.injEq]
  constructor
  · rintro ⟨name, hname, cppName, hcppName, package, hpackage, cppForm, hcppForm, items, hitems,
      pairs, hpairs, rfl⟩
    exact ⟨hname, hcppName, hpackage, rfl, hcppForm, items, hitems, hpairs⟩
  · obtain ⟨name, cppName, package, underlying, cppForm, pairs⟩ := e
    rintro ⟨hname, hcppName, hpackage, rfl, hcppForm, items, hitems, hpairs⟩
    exact ⟨_, hname, _, hcppName, _, hpackage, _, hcppForm, items, hitems, _, hpairs, rfl⟩

end Entities

/-! ### Sections -/

section Sections

variable {classes structs enums : Document} {cs ss es : List Document}

private theorem section?_of_get? {doc : Document} {key : String} {items : List Document}
    (h : doc.get? key = some (.list items)) : section? doc key = .ok items := by
  cases doc with
  | table entries =>
    rw [Document.get?] at h
    simp only [section?, h, Document.members?]
  | _ => cases h

/-- The three sections are read entry by entry. -/
theorem read_eq_ok_iff (hclasses : classes.get? "classes" = some (.list cs))
    (hstructs : structs.get? "structs" = some (.list ss))
    (henums : enums.get? "enums" = some (.list es)) {r : SchemaRecord} :
    read classes structs enums = .ok r ↔
      List.Forall₂ DescribesClass cs r.classes ∧ List.Forall₂ DescribesStruct ss r.structs ∧
        List.Forall₂ DescribesEnum es r.enums := by
  unfold read
  simp only [section?_of_get? hclasses, section?_of_get? hstructs, section?_of_get? henums,
    bind_eq_ok_iff, mapM_eq_ok_iff, readClass_eq_ok_iff, readStruct_eq_ok_iff, readEnum_eq_ok_iff,
    pure, Except.pure, Except.ok.injEq]
  constructor
  · rintro ⟨_, rfl, classes, hcs, _, rfl, structs, hss, _, rfl, enums, hes, rfl⟩
    exact ⟨hcs, hss, hes⟩
  · rintro ⟨hcs, hss, hes⟩
    exact ⟨_, rfl, _, hcs, _, rfl, _, hss, _, rfl, _, hes, rfl⟩

end Sections

/-! ## How readers fail -/

/-- A reader that fails only by reporting an entry. -/
def Refuses {α : Type} (x : Except SchemaError α) : Prop := ∀ e, x = .error e → e.IsReported

namespace Refuses

variable {α β : Type}

theorem ok (a : α) : Refuses (.ok a) := nofun

/-- Reading on fails in no other way if neither part does. -/
theorem bind {x : Except SchemaError α} {f : α → Except SchemaError β} (hx : Refuses x)
    (hf : ∀ a, x = .ok a → Refuses (f a)) : Refuses (x >>= f) := by
  intro e he
  obtain h | ⟨a, ha, h⟩ := bind_eq_error_iff.1 he
  · exact hx e h
  · exact hf a ha e h

theorem mapM {f : α → Except SchemaError β} {xs : List α} (h : ∀ x ∈ xs, Refuses (f x)) :
    Refuses (xs.mapM f) := by
  intro e he
  obtain ⟨x, hx, hfx⟩ := exists_of_mapM_eq_error he
  exact h x hx e hfx

end Refuses

section Refused

variable {kind : EntryKind} {entry d : Document} {key : String}

private theorem refuses_field : Refuses (field kind d key) := by
  unfold field
  intro e h
  split at h
  · split at h <;> cases h
    trivial
  · cases h
    trivial

/-- A conversion fails by naming the entry unless a number is infinite. -/
private theorem refuses_within {α : Type} {x : Except Document.ConversionFault α}
    (hx : x ≠ .error .infinite) : Refuses (within kind entry x) := by
  rintro e h
  rcases x with (_ | _) | _
  · cases h
    trivial
  · exact absurd rfl hx
  · cases h

private theorem refuses_intAt (hd : d.isFinite = true) {absent : Int} :
    Refuses (intAt kind d key absent) := by
  refine refuses_within (Document.toInt_ne_infinite ?_)
  cases hv : d.get? key with
  | none => rfl
  | some v => exact Document.isFinite_of_get? hd hv

private theorem refuses_flagsAt (hd : d.isFinite = true) : Refuses (flagsAt kind d key) := by
  unfold flagsAt
  split
  · exact .ok 0
  · exact .bind (refuses_within (Document.toInt_ne_infinite (Document.isFinite_getD hd key)))
      fun n _ => .ok _

private theorem refuses_membersOf : Refuses (membersOf kind entry d) := by
  unfold membersOf
  intro e h
  split at h <;> cases h
  trivial

private theorem refuses_membersAt : Refuses (membersAt kind d key) := by
  unfold membersAt
  split
  · exact .ok []
  · exact refuses_membersOf

private theorem isFinite_of_holdsMembers (hd : d.isFinite = true) {items : List Document}
    (h : HoldsMembers d key items) : ∀ m ∈ items, m.isFinite = true := by
  unfold HoldsMembers at h
  split at h
  · subst h
    exact nofun
  · exact Document.isFinite_of_members? (Document.isFinite_getD hd key) h

/-- As above, by induction on the bound; a document that nests deeper is cut off, which is no
failure. -/
private theorem refuses_read (n : Nat) :
    (∀ d : Document, d.isFinite = true → Refuses (readProperty n d)) ∧
    (∀ owner d : Document, d.isFinite = true → Refuses (readSignature n owner d)) := by
  induction n with
  | zero =>
    constructor
    · intro d hd
      rw [readProperty]
      exact .ok none
    · intro owner d hd
      rw [readSignature]
      exact .ok none
  | succ n ih =>
    obtain ⟨ihproperty, ihsignature⟩ := ih
    constructor
    · intro d hd
      by_cases hnull : d = .null
      · subst hnull
        rw [readProperty]
        exact .ok none
      · rw [readProperty]
        swap
        · exact hnull
        have hpart := fun key => ihproperty _ (Document.isFinite_getD hd key)
        exact .bind refuses_field fun _ _ => .bind refuses_field fun _ _ =>
          .bind (refuses_intAt hd) fun _ _ => .bind (refuses_intAt hd) fun _ _ =>
          .bind (ihsignature d _ (Document.isFinite_getD hd _)) fun _ _ =>
          .bind (hpart _) fun _ _ => .bind (hpart _) fun _ _ => .bind (hpart _) fun _ _ =>
          .bind (hpart _) fun _ _ => .ok _
    · intro owner d hd
      cases htable : d.isTable with
      | false =>
        rw [readSignature_of_not_isTable htable]
        exact .ok none
      | true =>
        rw [readSignature_of_isTable htable]
        split
        · exact .ok _
        · refine .bind refuses_membersOf fun items hitems => ?_
          have hfinite := Document.isFinite_of_members? (Document.isFinite_getD hd "params")
            (membersOf_eq_ok_iff.1 hitems)
          exact .bind (.mapM fun m hm => ihproperty m (hfinite m hm)) fun _ _ => .ok _

private theorem refuses_propertiesAt (hd : d.isFinite = true) :
    Refuses (propertiesAt kind d key) := by
  unfold propertiesAt
  refine .bind refuses_membersAt fun items hitems => ?_
  rw [readProperties_eq_mapM]
  exact .mapM fun m hm => (refuses_read _).1 m
    (isFinite_of_holdsMembers hd (membersAt_eq_ok_iff.1 hitems) m hm)

private theorem refuses_readFunction (hd : d.isFinite = true) : Refuses (readFunction d) :=
  .bind refuses_field fun _ _ => .bind (refuses_flagsAt hd) fun _ _ =>
  .bind (refuses_propertiesAt hd) fun _ _ => .ok _

private theorem refuses_readClass (hd : d.isFinite = true) : Refuses (readClass d) :=
  .bind refuses_field fun _ _ => .bind refuses_field fun _ _ => .bind refuses_field fun _ _ =>
  .bind (refuses_flagsAt hd) fun _ _ => .bind refuses_membersAt fun _ _ =>
  .bind (refuses_propertiesAt hd) fun _ _ => .bind refuses_membersAt fun _ hitems =>
  .bind (.mapM fun m hm => refuses_readFunction
    (isFinite_of_holdsMembers hd (membersAt_eq_ok_iff.1 hitems) m hm)) fun _ _ => .ok _

private theorem refuses_readStruct (hd : d.isFinite = true) : Refuses (readStruct d) :=
  .bind refuses_field fun _ _ => .bind refuses_field fun _ _ => .bind refuses_field fun _ _ =>
  .bind (refuses_flagsAt hd) fun _ _ => .bind (refuses_propertiesAt hd) fun _ _ => .ok _

private theorem refuses_readPair (hd : d.isFinite = true) : Refuses (readPair entry d) := by
  unfold readPair
  split
  · next name value hmembers =>
    have hvalue := Document.isFinite_of_members? hd hmembers value (by simp)
    exact .bind (refuses_within (Document.toInt_ne_infinite hvalue)) fun _ _ => .ok _
  · intro e h
    cases h
    trivial

private theorem refuses_readEnum (hd : d.isFinite = true) : Refuses (readEnum d) :=
  .bind refuses_field fun _ _ => .bind refuses_field fun _ _ => .bind refuses_field fun _ _ =>
  .bind (refuses_intAt hd) fun _ _ => .bind refuses_membersAt fun _ hitems =>
  .bind (.mapM fun m hm => refuses_readPair
    (isFinite_of_holdsMembers hd (membersAt_eq_ok_iff.1 hitems) m hm)) fun _ _ => .ok _

end Refused

/-- On finite numbers, a schema with its sections is read, or an entry is reported. -/
theorem refuses_of_isFinite {classes structs enums : Document} {cs ss es : List Document}
    (hclasses : classes.get? "classes" = some (.list cs))
    (hstructs : structs.get? "structs" = some (.list ss))
    (henums : enums.get? "enums" = some (.list es)) (hcfinite : classes.isFinite = true)
    (hsfinite : structs.isFinite = true) (hefinite : enums.isFinite = true) :
    Refuses (read classes structs enums) := by
  have hitems {doc : Document} {key : String} {items : List Document} (hdoc : doc.isFinite = true)
      (h : doc.get? key = some (.list items)) : ∀ m ∈ items, m.isFinite = true :=
    Document.isFinite_of_members? (Document.isFinite_of_get? hdoc h) rfl
  unfold read
  rw [section?_of_get? hclasses, section?_of_get? hstructs, section?_of_get? henums]
  exact .bind (.ok cs) fun _ h => .bind (.mapM fun m hm => refuses_readClass
      (hitems hcfinite hclasses m (Except.ok.inj h ▸ hm))) fun _ _ =>
    .bind (.ok ss) fun _ h => .bind (.mapM fun m hm => refuses_readStruct
      (hitems hsfinite hstructs m (Except.ok.inj h ▸ hm))) fun _ _ =>
    .bind (.ok es) fun _ h => .bind (.mapM fun m hm => refuses_readEnum
      (hitems hefinite henums m (Except.ok.inj h ▸ hm))) fun _ _ => .ok _

end SchemaRecord
end Bindery
