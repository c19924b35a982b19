import Bindery.Proofs.Schema.Records

/-!
# Gaps in the lists of a schema

Lists of properties and parameters are read member by member. Whatever is no property is reported,
except for a null, which becomes a member without a property: the same reader is also asked for the
parts of a property, where null says that there is none.

* `Document.listAt`: the members at a key.
* `Document.PropertyLists`, `ListedIn`: the lists of properties in entries, at any depth.
* `PropertyRecord.Lists`, `SchemaRecord.Lists`: those in records.
* `SchemaRecord.exists_listedIn`, `exists_lists`: they are the same lists, member by member.
* `SchemaRecord.gapless_iff`: where gaps come from.
* `schema_read_or_refused`: the main statement.
-/

namespace Bindery

/-! ## Lists -/

namespace Document

/-- The members at a key; what is no collection has none. -/
def listAt (d : Document) (key : String) : List Document := (d.getD key).members?.getD []

/-- The parameters of the signature of a delegate property. -/
def delegateParams (d : Document) : List Document := (d.getD "func_info").listAt "params"

/-- The keys at which a property has other properties. -/
def partKeys : List String := ["inner_prop", "key_prop", "value_prop", "element_prop"]

/-- What stands for a property in a property. -/
inductive Part (d : Document) : Document → Prop where
  | key {key : String} : key ∈ partKeys → Part d (d.getD key)
  | param {m : Document} : m ∈ d.delegateParams → Part d m

/-- The lists of properties in a property, at any depth. -/
inductive PropertyLists : Document → List Document → Prop where
  | params {d : Document} : PropertyLists d d.delegateParams
  | part {d e : Document} {items : List Document} : d.Part e → PropertyLists e items →
      PropertyLists d items

end Document

/-- The lists of properties in the classes and structs of a schema, at any depth. -/
inductive ListedIn (classes structs : List Document) : List Document → Prop where
  | classProps {d : Document} : d ∈ classes → ListedIn classes structs (d.listAt "props")
  | params {d f : Document} : d ∈ classes → f ∈ d.listAt "funcs" →
      ListedIn classes structs (f.listAt "params")
  | structProps {d : Document} : d ∈ structs → ListedIn classes structs (d.listAt "props")
  | part {items inner : List Document} {d : Document} : ListedIn classes structs items →
      d ∈ items → d.PropertyLists inner → ListedIn classes structs inner

namespace PropertyRecord

/-- The parameters of the signature of a delegate property. -/
def delegateParams (p : PropertyRecord) : List (Option PropertyRecord) :=
  (p.signature.bind SignatureRecord.params).getD []

/-- The properties in a property. -/
inductive Part (p : PropertyRecord) : PropertyRecord → Prop where
  | inner {q : PropertyRecord} : p.inner = some q → Part p q
  | key {q : PropertyRecord} : p.key = some q → Part p q
  | value {q : PropertyRecord} : p.value = some q → Part p q
  | element {q : PropertyRecord} : p.element = some q → Part p q
  | param {q : PropertyRecord} : some q ∈ p.delegateParams → Part p q

/-- The lists of properties in a property, at any depth. -/
inductive Lists : PropertyRecord → List (Option PropertyRecord) → Prop where
  | params {p : PropertyRecord} : Lists p p.delegateParams
  | part {p q : PropertyRecord} {l : List (Option PropertyRecord)} : p.Part q → Lists q l →
      Lists p l

end PropertyRecord

/-- The lists of properties in a schema, at any depth. -/
inductive SchemaRecord.Lists (r : SchemaRecord) : List (Option PropertyRecord) → Prop where
  | classProps {c : ClassRecord} : c ∈ r.classes → Lists r c.props
  | params {c : ClassRecord} {f : FunctionRecord} : c ∈ r.classes → f ∈ c.funcs → Lists r f.params
  | structProps {s : StructRecord} : s ∈ r.structs → Lists r s.props
  | part {l inner : List (Option PropertyRecord)} {p : PropertyRecord} : Lists r l →
      some p ∈ l → p.Lists inner → Lists r inner

/-! ## Properties -/

/-- What is empty has no members, of whatever sort it is. -/
theorem Document.members?_of_isEmpty {d : Document} (h : d.isEmpty = true) :
    d.members?.getD [] = [] := by
  cases d with
  | list items => exact List.isEmpty_iff.1 h
  | text s =>
    obtain rfl := String.isEmpty_iff.1 h
    rfl
  | table entries =>
    obtain rfl := List.isEmpty_iff.1 h
    rfl
  | _ => rfl

theorem listAt_of_holdsMembers {d : Document} {key : String} {items : List Document}
    (h : HoldsMembers d key items) : d.listAt key = items := by
  unfold HoldsMembers at h
  unfold Document.listAt
  split at h
  · next hempty => rw [h, Document.members?_of_isEmpty hempty]
  · rw [h, Option.getD_some]

section Properties

variable {d e : Document} {p q : PropertyRecord} {o : Option PropertyRecord}

theorem eq_null_of_describes (h : DescribesProperty d none) : d = .null := by
  cases h
  rfl

theorem eq_none_of_describes (h : DescribesProperty .null o) : o = none := by
  obtain _ | ⟨⟨hname, _⟩⟩ := h
  · rfl
  · cases hname

/-- Members that describe no property are the nulls. -/
theorem none_mem_iff {items : List Document} {l : List (Option PropertyRecord)}
    (h : List.Forall₂ DescribesProperty items l) : none ∈ l ↔ .null ∈ items := by
  constructor
  · intro hl
    obtain ⟨d, hd, hnone⟩ := exists_of_mem_right h hl
    exact eq_null_of_describes hnone ▸ hd
  · intro hitems
    obtain ⟨o, ho, hnull⟩ := exists_of_mem_left h hitems
    exact eq_none_of_describes hnull ▸ ho

theorem Document.getD_of_not_isTable {d : Document} (h : d.isTable = false) (key : String) :
    d.getD key = .null := by
  cases d with
  | table entries => cases h
  | _ => rfl

theorem forall₂_params_of_describes {s : Option SignatureRecord} (h : DescribesSignature d s) :
    List.Forall₂ DescribesProperty (d.listAt "params")
      ((s.bind SignatureRecord.params).getD []) := by
  unfold Document.listAt
  obtain htable | ⟨-, hnull⟩ | ⟨-, hitems, hparams⟩ := h
  · rw [Document.getD_of_not_isTable htable]
    exact .nil
  · rw [hnull]
    exact .nil
  · rw [hitems]
    exact hparams

theorem forall₂_delegateParams (h : DescribesProperty d (some p)) :
    List.Forall₂ DescribesProperty d.delegateParams p.delegateParams := by
  obtain _ | ⟨-, hsignature, -⟩ := h
  exact forall₂_params_of_describes hsignature

/-- A part of a record is described by a part of its entry. -/
theorem exists_part_of_record (h : DescribesProperty d (some p)) (hq : p.Part q) :
    ∃ e, d.Part e ∧ DescribesProperty e (some q) := by
  have hparams := forall₂_delegateParams h
  obtain _ | ⟨-, -, hinner, hkey, hvalue, helement⟩ := h
  cases hq with
  | inner hq => exact ⟨_, .key (by simp [Document.partKeys]), hq ▸ hinner⟩
  | key hq => exact ⟨_, .key (by simp [Document.partKeys]), hq ▸ hkey⟩
  | value hq => exact ⟨_, .key (by simp [Document.partKeys]), hq ▸ hvalue⟩
  | element hq => exact ⟨_, .key (by simp [Document.partKeys]), hq ▸ helement⟩
  | param hq =>
    obtain ⟨e, he, hdescribes⟩ := exists_of_mem_right hparams hq
    exact ⟨e, .param he, hdescribes⟩

/-- A part of an entry describes a part of its record, unless it is null. -/
theorem exists_part_of_document (h : DescribesProperty d (some p)) (he : d.Part e) :
    e = .null ∨ ∃ q, p.Part q ∧ DescribesProperty e (some q) := by
  have hparams := forall₂_delegateParams h
  obtain _ | ⟨-, -, hinner, hkey, hvalue, helement⟩ := h
  have hpart {o : Option PropertyRecord} (hd : DescribesProperty e o)
      (hp : ∀ q, o = some q → p.Part q) :
      e = .null ∨ ∃ q, p.Part q ∧ DescribesProperty e (some q) := by
    cases o with
    | none => exact .inl (eq_null_of_describes hd)
    | some q => exact .inr ⟨q, hp q rfl, hd⟩
  cases he with
  | key hkeys =>
    simp only [Document.partKeys, List.mem_cons, List.not_mem_nil, or_false] at hkeys
    obtain rfl | rfl | rfl | rfl := hkeys
    · exact hpart hinner fun _ => .inner
    · exact hpart hkey fun _ => .key
    · exact hpart hvalue fun _ => .value
    · exact hpart helement fun _ => .element
  | param hm =>
    obtain ⟨o, ho, hdescribes⟩ := exists_of_mem_left hparams hm
    exact hpart hdescribes fun q hq => .param (hq ▸ ho)

theorem null_of_part (h : Document.Part .null e) : e = .null := by
  obtain _ | hm := h
  · rfl
  · cases hm

/-- Null has no lists but empty ones. -/
theorem nil_of_propertyLists {items : List Document} (h : d.PropertyLists items)
    (hd : d = .null) : items = [] := by
  induction h with
  | params =>
    subst hd
    rfl
  | part hpart _ ih => exact ih (null_of_part (hd ▸ hpart))

/-- The lists in a record are those in its entry. -/
theorem exists_lists_of_record {l : List (Option PropertyRecord)} (hl : p.Lists l)
    (h : DescribesProperty d (some p)) :
    ∃ items, d.PropertyLists items ∧ List.Forall₂ DescribesProperty items l := by
  induction hl generalizing d with
  | params => exact ⟨_, .params, forall₂_delegateParams h⟩
  | part hpart _ ih =>
    obtain ⟨e, he, hq⟩ := exists_part_of_record h hpart
    obtain ⟨items, hitems, hl⟩ := ih hq
    exact ⟨items, .part he hitems, hl⟩

theorem exists_lists_of_document {items : List Document} (hitems : d.PropertyLists items)
    (h : DescribesProperty d (some p)) :
    items = [] ∨ ∃ l, p.Lists l ∧ List.Forall₂ DescribesProperty items l := by
  induction hitems generalizing p with
  | params => exact .inr ⟨_, .params, forall₂_delegateParams h⟩
  | part hpart hinner ih =>
    obtain hnull | ⟨q, hq, hdescribes⟩ := exists_part_of_document h hpart
    · exact .inl (nil_of_propertyLists hinner hnull)
    · obtain hnil | ⟨l, hl, hforall⟩ := ih hdescribes
      · exact .inl hnil
      · exact .inr ⟨l, .part hq hl, hforall⟩

end Properties

/-! ## Schemas -/

section Schemas

variable {cs ss : List Document} {r : SchemaRecord}

theorem forall₂_listAt {d : Document} {key : String} {ps : List (Option PropertyRecord)}
    (h : HoldsProperties d key ps) : List.Forall₂ DescribesProperty (d.listAt key) ps := by
  obtain ⟨items, hitems, hps⟩ := h
  exact listAt_of_holdsMembers hitems ▸ hps

theorem DescribesClass.forall₂_funcs {d : Document} {c : ClassRecord} (h : DescribesClass d c) :
    List.Forall₂ DescribesFunction (d.listAt "funcs") c.funcs := by
  obtain ⟨items, hitems, hfuncs⟩ := h.funcs
  exact listAt_of_holdsMembers hitems ▸ hfuncs

/-- The lists in a record are those in its documents. -/
theorem SchemaRecord.exists_listedIn (hclasses : List.Forall₂ DescribesClass cs r.classes)
    (hstructs : List.Forall₂ DescribesStruct ss r.structs) {l : List (Option PropertyRecord)}
    (hl : r.Lists l) :
    ∃ items, ListedIn cs ss items ∧ List.Forall₂ DescribesProperty items l := by
  induction hl with
  | classProps hc =>
    obtain ⟨d, hd, hdescribes⟩ := exists_of_mem_right hclasses hc
    exact ⟨_, .classProps hd, forall₂_listAt hdescribes.props⟩
  | params hc hf =>
    obtain ⟨d, hd, hdescribes⟩ := exists_of_mem_right hclasses hc
    obtain ⟨f, hfunc, hfunction⟩ := exists_of_mem_right hdescribes.forall₂_funcs hf
    exact ⟨_, .params hd hfunc, forall₂_listAt hfunction.params⟩
  | structProps hs =>
    obtain ⟨d, hd, hdescribes⟩ := exists_of_mem_right hstructs hs
    exact ⟨_, .structProps hd, forall₂_listAt hdescribes.props⟩
  | part _ hp hinner ih =>
    obtain ⟨items, hitems, hforall⟩ := ih
    obtain ⟨d, hd, hdescribes⟩ := exists_of_mem_right hforall hp
    obtain ⟨inner, hlists, hl⟩ := exists_lists_of_record hinner hdescribes
    exact ⟨inner, .part hitems hd hlists, hl⟩

/-- The lists in documents are those in the record, apart from empty ones. -/
theorem SchemaRecord.exists_lists (hclasses : List.Forall₂ DescribesClass cs r.classes)
    (hstructs : List.Forall₂ DescribesStruct ss r.structs) {items : List Document}
    (hitems : ListedIn cs ss items) :
    items = [] ∨ ∃ l, r.Lists l ∧ List.Forall₂ DescribesProperty items l := by
  induction hitems with
  | classProps hd =>
    obtain ⟨c, hc, hdescribes⟩ := exists_of_mem_left hclasses hd
    exact .inr ⟨_, .classProps hc, forall₂_listAt hdescribes.props⟩
  | params hd hfunc =>
    obtain ⟨c, hc, hdescribes⟩ := exists_of_mem_left hclasses hd
    obtain ⟨f, hf, hfunction⟩ := exists_of_mem_left hdescribes.forall₂_funcs hfunc
    exact .inr ⟨_, .params hc hf, forall₂_listAt hfunction.params⟩
  | structProps hd =>
    obtain ⟨s, hs, hdescribes⟩ := exists_of_mem_left hstructs hd
    exact .inr ⟨_, .structProps hs, forall₂_listAt hdescribes.props⟩
  | part _ hd hlists ih =>
    obtain rfl | ⟨l, hl, hforall⟩ := ih
    · cases hd
    · obtain ⟨o, ho, hdescribes⟩ := exists_of_mem_left hforall hd
      cases o with
      -- What is absent was null, which has no lists of properties but empty ones.
      | none => exact .inl (nil_of_propertyLists hlists (eq_null_of_describes hdescribes))
      | some p =>
        obtain hnil | ⟨inner, hinner, hl'⟩ := exists_lists_of_document hlists hdescribes
        · exact .inl hnil
        · exact .inr ⟨inner, .part hl ho hinner, hl'⟩

/-- A record has a gap just if there is a null in a list that it was read from. -/
theorem SchemaRecord.gapless_iff (hclasses : List.Forall₂ DescribesClass cs r.classes)
    (hstructs : List.Forall₂ DescribesStruct ss r.structs) :
    (∀ l, r.Lists l → none ∉ l) ↔ ∀ items, ListedIn cs ss items → .null ∉ items := by
  constructor
  · intro h items hitems hnull
    obtain rfl | ⟨l, hl, hforall⟩ := exists_lists hclasses hstructs hitems
    · cases hnull
    · exact h l hl ((none_mem_iff hforall).2 hnull)
  · intro h l hl hnone
    obtain ⟨items, hitems, hforall⟩ := exists_listedIn hclasses hstructs hl
    exact h items hitems ((none_mem_iff hforall).1 hnone)

/-- No function of a class is null. -/
theorem DescribesClass.null_not_mem_funcs {d : Document} {c : ClassRecord}
    (h : DescribesClass d c) : .null ∉ d.listAt "funcs" := by
  intro hnull
  obtain ⟨f, -, hf⟩ := exists_of_mem_left h.forall₂_funcs hnull
  cases hf.name

end Schemas

/-! ## Reading -/

open SchemaRecord (read)

section Reading

variable {classes structs enums : Document} {cs ss es : List Document}

/-- Three documents with their sections and without infinite numbers are read entry by entry, or
the error names an entry that describes nothing. Functions are never null; every other list that is
read has a gap exactly where the documents have a null. -/
theorem schema_read_or_refused (hclasses : classes.get? "classes" = some (.list cs))
    (hstructs : structs.get? "structs" = some (.list ss))
    (henums : enums.get? "enums" = some (.list es))
    (hfinite : classes.isFinite = true ∧ structs.isFinite = true ∧ enums.isFinite = true) :
    (∀ r, read classes structs enums = .ok r ↔
      List.Forall₂ DescribesClass cs r.classes ∧ List.Forall₂ DescribesStruct ss r.structs ∧
        List.Forall₂ DescribesEnum es r.enums) ∧
    ((∃ r, read classes structs enums = .ok r) ∨
      ∃ e, read classes structs enums = .error e ∧ e.IsReported) ∧
    ∀ r, read classes structs enums = .ok r →
      (∀ d ∈ cs, .null ∉ d.listAt "funcs") ∧
      ((∀ l, r.Lists l → none ∉ l) ↔ ∀ items, ListedIn cs ss items → .null ∉ items) := by
  refine ⟨fun r => SchemaRecord.read_eq_ok_iff hclasses hstructs henums, ?_, fun r hr => ?_⟩
  · cases h : read classes structs enums with
    | ok r => exact .inl ⟨r, rfl⟩
    | error e =>
      have hrefuses := SchemaRecord.refuses_of_isFinite hclasses hstructs henums hfinite.1
        hfinite.2.1 hfinite.2.2
      exact .inr ⟨e, rfl, hrefuses e h⟩
  · obtain ⟨hcs, hss, -⟩ := (SchemaRecord.read_eq_ok_iff hclasses hstructs henums).1 hr
    refine ⟨fun d hd => ?_, SchemaRecord.gapless_iff hcs hss⟩
    obtain ⟨c, -, hc⟩ := exists_of_mem_left hcs hd
    exact hc.null_not_mem_funcs

/-- A struct with a delegate whose only parameter is null is read, with a gap. -/
theorem schema_read_or_refused_delegate :
    let ss : List Document := [.table [("name", .text "Hit"), ("cpp_name", .text "FHit"),
      ("package", .text "Engine"), ("props", .list [.table [("name", .text "OnHit"),
        ("type", .text "DelegateProperty"), ("func_info", .table [("params", .list [.null])])]])]]
    let classes := Document.table [("classes", .list [])]
    let structs := Document.table [("structs", .list ss)]
    let enums := Document.table [("enums", .list [])]
    (classes.isFinite = true ∧ structs.isFinite = true ∧ enums.isFinite = true) ∧
      ∃ r, read classes structs enums = .ok r ∧ ¬ ∀ l, r.Lists l → none ∉ l := by
  intro ss classes structs enums
  have hfinite : classes.isFinite = true ∧ structs.isFinite = true ∧ enums.isFinite = true :=
    ⟨rfl, rfl, rfl⟩
  obtain ⟨hok, -, hgaps⟩ :=
    @schema_read_or_refused classes structs enums [] ss [] rfl rfl rfl hfinite
  have hproperty : DescribesProperty (.table [("name", .text "OnHit"),
      ("type", .text "DelegateProperty"), ("func_info", .table [("params", .list [.null])])])
      (some ⟨.text "OnHit", .text "DelegateProperty", 0, 1, .null, .null, .null, .null, .null,
        .null, .null, .null, some ⟨.text "", some [none]⟩, none, none, none, none, .null, .null,
        .null⟩) :=
    .given ⟨rfl, rfl, rfl, rfl, rfl, rfl, rfl, rfl, rfl, rfl, rfl, rfl, rfl, rfl, rfl⟩
      (.given rfl rfl (.cons .absent .nil)) .absent .absent .absent .absent
  have hread := (hok ⟨[], [⟨.text "Hit", .text "FHit", .text "Engine", .text "", 0, .null, false,
    [some _]⟩], []⟩).2
    ⟨.nil, .cons ⟨rfl, rfl, rfl, rfl, rfl, rfl, rfl, _, rfl, .cons hproperty .nil⟩ .nil, .nil⟩
  have hlisted : ListedIn [] ss [.null] := .part (.structProps (.head _)) (.head _) .params
  exact ⟨hfinite, _, hread, fun hwhole => (hgaps _ hread).2.1 hwhole _ hlisted (.head _)⟩

/-- A null among the properties of a class is no error. -/
theorem null_property_kept :
    read (.table [("classes", .list [.table [("name", .text "Actor"), ("cpp_name", .text "AActor"),
        ("package", .text "Engine"), ("props", .list [.null])]])])
      (.table [("structs", .list [])]) (.table [("enums", .list [])]) =
      .ok ⟨[⟨.text "Actor", .text "AActor", .text "Engine", .text "", 0, .null, [], [none], []⟩],
        [], []⟩ := by
  rw [SchemaRecord.read_eq_ok_iff rfl rfl rfl]
  exact ⟨.cons ⟨rfl, rfl, rfl, rfl, rfl, rfl, rfl, ⟨_, rfl, .cons .absent .nil⟩, ⟨_, rfl, .nil⟩⟩
    .nil, .nil, .nil⟩

end Reading
end Bindery
