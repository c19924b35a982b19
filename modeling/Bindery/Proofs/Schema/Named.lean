import Bindery.Proofs.Preparation

/-!
# Schemas in which everything is named

What the generator counts on when it makes files: entities and members are named by texts, types
are tagged, lists have no holes, and a reference is a text or absent.

* `Property.data`, `Schema.properties`: the types that a property and a schema are made of.
* `Schema.Named`: a schema of that sort; the other `Named`s are its parts.
* `Schema.Named.usable`: it can be prepared.
* `Context.Named`, `Schema.Named.context`: what its context holds is named, too.
-/

namespace Bindery

/-! ## Schemas -/

/-- The types in a property: its own, those of its elements and those of its signature. -/
def Property.data (p : Property) : List Datum :=
  p.toDatum :: (p.elements.filterMap id ++ (p.signature.map (·.params)).getD [])

/-- The properties of classes and structs, and the parameters of functions. -/
def Schema.properties (schema : Schema) : List Property :=
  schema.classes.flatMap (fun c => c.props ++ c.funcs.flatMap (·.params))
    ++ schema.structs.flatMap (·.props)

/-- A text, or nothing. -/
def Label.IsReference (l : Label) : Prop := l = .null ∨ l.isText = true

/-- A type without a hole. Enums are named by texts without braces. -/
structure Datum.Named (d : Datum) : Prop where
  name : d.name.isText = true
  known : d.kind ≠ .absent ∧ d.kind ≠ .unusable
  className : Label.IsReference d.className
  metaClassName : Label.IsReference d.metaClassName
  structName : Label.IsReference d.structName
  enumName : Label.IsReference d.enumName
  interfaceName : Label.IsReference d.interfaceName
  enumUnderlying : Label.IsReference d.enumUnderlying
  noBraces : ∀ s, d.enumName = .text s → '\x7b' ∉ s.toList ∧ '\x7d' ∉ s.toList

structure Property.Named (p : Property) : Prop where
  data : ∀ d ∈ p.data, d.Named
  default : Label.IsReference p.default

structure ClassInfo.Named (c : ClassInfo) : Prop where
  name : c.name.isText = true
  super : Label.IsReference c.super
  header : Label.IsReference c.header
  funcs : ∀ f ∈ c.funcs, f.name.isText = true
  props : ∀ p ∈ c.props, p.Named
  params : ∀ f ∈ c.funcs, ∀ p ∈ f.params, p.Named

structure StructInfo.Named (s : StructInfo) : Prop where
  name : s.name.isText = true
  cppName : s.cppName.isText = true
  props : ∀ p ∈ s.props, p.Named

structure EnumInfo.Named (e : EnumInfo) : Prop where
  name : e.name.isText = true
  underlying : Label.IsReference e.underlying

/-- A schema in which everything is named. -/
structure Schema.Named (schema : Schema) : Prop where
  packages : ∀ l ∈ schema.packages, l.isText = true
  classes : ∀ c ∈ schema.classes, c.Named
  structs : ∀ s ∈ schema.structs, s.Named
  enums : ∀ e ∈ schema.enums, e.Named

/-! ## Parts -/

theorem Label.IsReference.isKey {l : Label} (h : l.IsReference) : l.isKey = true := by
  rcases h with rfl | h
  · rfl
  · exact Label.isKey_of_isText h

/-- A reference that is given is a text. -/
theorem Label.IsReference.isText_of_given? {l name : Label} (h : l.IsReference)
    (hname : l.given? = some name) : name.isText = true := by
  obtain rfl := Label.eq_of_given? hname
  rcases h with rfl | h
  · cases hname
  · exact h

/-- Whatever is named can be looked up. -/
theorem Datum.Named.usable {d : Datum} (h : d.Named) : d.Usable where
  known := h.known
  className := h.className.isKey
  metaClassName := h.metaClassName.isKey
  structName := h.structName.isKey
  enumName := h.enumName.isKey
  interfaceName := h.interfaceName.isKey
  enumUnderlying := h.enumUnderlying.isKey

namespace Property

variable {p : Property}

private theorem toDatum_mem_data : p.toDatum ∈ p.data := .head _

private theorem mem_data_of_element {d : Datum} (h : some d ∈ p.elements) : d ∈ p.data :=
  .tail _ (List.mem_append_left _ (List.mem_filterMap.2 ⟨_, h, rfl⟩))

theorem mem_data_of_signature {s : Signature} {d : Datum} (hs : p.signature = some s)
    (hd : d ∈ s.params) : d ∈ p.data :=
  .tail _ (List.mem_append_right _ (by rw [hs]; exact hd))

theorem Named.datum (h : p.Named) : p.toDatum.Named := h.data _ toDatum_mem_data

/-- The types of a property are its own, those of its elements and those of its signature. -/
theorem Named.usable (h : p.Named) : p.Usable where
  datum := h.datum.usable
  elements _ hd := (h.data _ (mem_data_of_element hd)).usable
  signature _ hs _ hd := (h.data _ (mem_data_of_signature hs hd)).usable

end Property

/-- The enum, struct and class of a named type are named by texts. -/
theorem Datum.Named.isText_of_enum? {d : Datum} (h : d.Named) {name : Label}
    (hname : d.enum? = some name) : name.isText = true := h.enumName.isText_of_given? hname

/-- Filtering keeps names, since an overload is renamed by a number behind its name. -/
theorem ClassInfo.Named.filterClass {c : ClassInfo} (h : c.Named) (ctx : Context)
    (blocklist : Blocklist) : (filterClass ctx blocklist c).1.Named := by
  have hrenamed : ∀ g ∈ (Bindery.filterClass ctx blocklist c).1.funcs,
      ∃ f ∈ c.funcs, f.Renames g := fun g hg => by
    obtain ⟨f, hf, hrenames⟩ := exists_of_mem_right (renameOverloads_renames _) hg
    exact ⟨f, List.mem_of_mem_filter hf, hrenames⟩
  refine ⟨h.name, h.super, h.header, fun g hg => ?_, fun p hp => ?_, fun g hg p hp => ?_⟩
  · obtain ⟨f, hf, hrenames⟩ := hrenamed g hg
    rcases hrenames.name with hname | ⟨n, hname⟩
    · rw [hname]
      exact h.funcs f hf
    · rw [hname]
      rfl
  · exact h.props p (List.mem_of_mem_filter hp)
  · obtain ⟨f, hf, hrenames⟩ := hrenamed g hg
    exact h.params f hf p (hrenames.params ▸ hp)

/-! ## What can be prepared -/

/-- A schema in which everything is named can be prepared. -/
theorem Schema.Named.usable {schema : Schema} (h : schema.Named) : schema.Usable where
  packages := h.packages
  classNames c hc := (h.classes c hc).name
  structNames s hs := (h.structs s hs).name
  enumNames e he := (h.enums e he).name
  underlying e he := (h.enums e he).underlying.isKey
  props c hc p hp := ((h.classes c hc).props p hp).usable
  funcs c hc f hf :=
    ⟨(h.classes c hc).funcs f hf, fun p hp => ((h.classes c hc).params f hf p hp).usable⟩

/-! ## Contexts -/

/-- A context that holds and finds named entities only. -/
structure Context.Named (ctx : Context) : Prop where
  classes : ∀ m, ∀ c ∈ ctx.classes.at m, c.Named
  structs : ∀ m, ∀ s ∈ ctx.structs.at m, s.Named
  enums : ∀ m, ∀ e ∈ ctx.enums.at m, e.Named
  classIndex : ∀ c ∈ ctx.classIndex, c.Named
  structIndex : ∀ s ∈ ctx.structIndex, s.Named
  enumIndex : ∀ e ∈ ctx.enumIndex, e.Named

/-- So everything is named in the context that it is prepared to. -/
theorem Schema.Named.context {schema : Schema} (h : schema.Named) (config : Config) :
    (Prepared.of schema config).context.Named where
  classes m c hc := by
    obtain ⟨declared, hdeclared, rfl⟩ := Schema.mem_classes_at.1 hc
    exact (h.classes declared (Schema.mem_enabledClasses.1 hdeclared).1).filterClass _ _
  structs m s hs := h.structs s (Schema.mem_structs_at.1 hs).1
  enums m e he := h.enums e (Schema.mem_enums_at.1 he).1
  classIndex c hc := h.classes c (List.mem_of_mem_filter (List.mem_of_mem_filter hc))
  structIndex s hs := h.structs s (List.mem_of_mem_filter hs)
  enumIndex e he := h.enums e (List.mem_of_mem_filter he)

end Bindery
