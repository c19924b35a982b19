import Bindery.Proofs.Render.Checks
import Bindery.Proofs.Render.Methods
import Bindery.Proofs.Render.OwnFiles

/-!
# Members of the base class

The code of a generated class uses members of the class that it extends. Accessors and functions are
kept clear of their names, but delegates are not.

* `Naming.isUpper_of_mem_accessorName`: names of accessors have no capitals.
* `append_underscore_not_mem`, `escapeReserved_eq_iff`: names that are escaped.
* `Access.names`, `Property.names_not_mem`: the names for a property.
* `base_members_hidden_by_delegates`: the members that the methods of a class hide.
* `delegate_hides_handle`: a class whose methods hide the handle that they use.
-/

namespace Bindery

/-! ## Names -/

namespace Naming

/-- Names of accessors have no capitals. -/
theorem isUpper_of_mem_accessorName {name : String} {c : Char}
    (h : c ∈ (accessorName name).toList) : c.isUpper = false := by
  unfold accessorName at h
  split at h
  · split at h
    · rw [String.toList_ofList] at h
      exact isUpper_of_mem_snakeChars h
    · exact isUpper_of_mem_snakeCase h
  · exact isUpper_of_mem_snakeCase h

end Naming

open Naming

theorem Label.accessorName_ne_className {l : Label} (h : l.isText = true) :
    l.accessorName ≠ "CLASS_NAME" := by
  obtain ⟨s, rfl⟩ := exists_of_isText h
  intro hname
  have hC : 'C' ∈ (Naming.accessorName s).toList := by
    rw [show Naming.accessorName s = _ from hname]
    decide
  exact absurd (isUpper_of_mem_accessorName hC) (by decide)

/-- No name of the base class ends in an underscore. -/
theorem append_underscore_not_mem (name : String) : name ++ "_" ∉ classReserved := by
  have hends : ∀ r ∈ classReserved, r.toList.getLast? ≠ some '_' := by decide
  exact fun h => hends _ h (by simp)

/-- The names of the base class are no reserved words, so escaping makes none of them. -/
theorem escapeReserved_eq_iff {name member : String} (h : member ∈ classReserved) :
    escapeReserved name = member ↔ name = member := by
  have hplain : ∀ r ∈ classReserved, isReserved r = false := by decide
  unfold escapeReserved
  split
  · next hname =>
    refine iff_of_false (fun he => ?_) fun he => ?_
    · exact append_underscore_not_mem name (he ▸ h)
    · exact Bool.false_ne_true ((hplain _ h).symm.trans (he ▸ hname))
  · rfl

/-! ## Methods -/

open Render

variable {ctx : Context} {c : ClassInfo} {entries : List Entry}

/-- A name that is kept clear of some others, among them those of the base class. -/
theorem shielded_not_mem {others : List String} (hsub : classReserved ⊆ others) (name : String) :
    (if others.contains name then name ++ "_" else name) ∉ classReserved := by
  split
  · exact append_underscore_not_mem name
  · next h => exact fun hname => h (List.contains_iff_mem.2 (hsub hname))

/-- The method of a slot hides no member of the base class. -/
theorem Entry.methodName_not_mem (e : Entry) : e.methodName ∉ classReserved :=
  shielded_not_mem (List.Subset.refl _) _

/-- The names that the methods of a property would have. -/
def Access.names : Access → List String
  | view name _ => [name]
  | fields getter setter => [getter, setter]
  | skipped _ | ignored => []

/-- Getters and setters have prefixes that no member of the base class has, and views are
shielded. -/
theorem Property.names_not_mem (p : Property) (inClass : Bool) :
    ∀ name ∈ (p.access ctx inClass).names, name ∉ classReserved := by
  have hget : ∀ r ∈ classReserved, ¬ "get_".toList <+: r.toList := by decide
  have hset : ∀ r ∈ classReserved, ¬ "set_".toList <+: r.toList := by decide
  fun_cases Property.access ctx inClass p <;> simp only [Access.names, List.forall_mem_cons]
  case case7 => exact ⟨shielded_not_mem (by decide) _, List.forall_mem_nil _⟩
  case case8 =>
    exact ⟨fun h => hget _ h (by simp), fun h => hset _ h (by simp), List.forall_mem_nil _⟩
  all_goals exact List.forall_mem_nil _

/-- The methods of an accessor have names of its property. -/
theorem Accessor.Takes.subset {inClass : Bool} {functions used : List String} {a : Accessor}
    (h : a.Takes ctx inClass functions used) : a.methods ⊆ (a.prop.access ctx inClass).names := by
  cases h with
  | view haccess hnone => simp [haccess, Access.names, Accessor.methods, hnone]
  | both haccess hsome => simp [haccess, Access.names, Accessor.methods, hsome]
  | yields haccess hnone => simp [haccess, Access.names, Accessor.methods, hnone]

/-- Which members of the base class the methods of a generated class hide: just those that the name
of a delegate is turned into. The methods of accessors and functions hide none, and no delegate with
a text for its name hides the name of the class. -/
theorem base_members_hidden_by_delegates (schema : Schema) (config : Config) {m : String}
    {file : ClassModule} (h : file ∈ classModules (Prepared.of schema config) m) :
    (∀ a ∈ file.accessors, ∀ name ∈ a.methods, name ∉ classReserved) ∧
    (∀ f ∈ file.methods, f.name ∉ classReserved) ∧
    (∀ member ∈ classReserved, member ∈ file.methodNames ↔
      ∃ d ∈ file.delegates, d.prop.name.accessorName = member) ∧
    ∀ d ∈ file.delegates, d.prop.name.isText = true → d.prop.name.accessorName ≠ "CLASS_NAME" := by
  obtain ⟨c, -, rfl⟩ := List.mem_map.1 h
  set file := ClassModule.of (Prepared.of schema config).context c _
  have haccessors : ∀ a ∈ file.accessors, ∀ name ∈ a.methods, name ∉ classReserved :=
    fun a ha name hname =>
      a.prop.names_not_mem true name ((ClassModule.takes_of_mem ha).subset hname)
  have hmethods : ∀ f ∈ file.methods, f.name ∉ classReserved := fun f hf => by
    obtain ⟨e, -, rfl⟩ := List.mem_map.1 (mem_bindMethods hf)
    exact e.methodName_not_mem
  refine ⟨haccessors, hmethods, fun member hmember => ?_,
    fun d _ htext => Label.accessorName_ne_className htext⟩
  have hdelegate {d : Delegate} (hd : d ∈ file.delegates) :
      d.accessor = member ↔ d.prop.name.accessorName = member := by
    rw [accessor_of_mem_collectDelegates hd, escapeReserved_eq_iff hmember]
  rw [ClassModule.methodNames, List.mem_append, List.mem_append]
  constructor
  · rintro ((hname | hname) | hname)
    · obtain ⟨a, ha, hname⟩ := List.mem_flatMap.1 hname
      exact absurd hmember (haccessors a ha member hname)
    · obtain ⟨d, hd, hname⟩ := List.mem_map.1 hname
      exact ⟨d, hd, (hdelegate hd).1 hname⟩
    · obtain ⟨f, hf, rfl⟩ := List.mem_map.1 hname
      exact absurd hmember (hmethods f hf)
  · rintro ⟨d, hd, hname⟩
    exact .inl (.inr (List.mem_map.2 ⟨d, hd, (hdelegate hd).2 hname⟩))

/-- The methods of a class without delegates hide nothing. -/
theorem base_members_hidden_by_delegates_paced :
    ∃ file ∈ classModules (Prepared.of pacedSchema pacedConfig) "engine",
      file.delegates = [] ∧ ∀ member ∈ classReserved, member ∉ file.methodNames := by
  let p := Prepared.of pacedSchema pacedConfig
  obtain ⟨kept, hkept, hprops⟩ : ∃ c ∈ p.context.classes.at "engine", c.props = [speedProperty] :=
    ⟨_, Schema.mem_classes_at.2 ⟨_, List.mem_singleton_self _, rfl⟩, rfl⟩
  let file := ClassModule.of p.context kept
    (p.table.filter fun e => e.module = "engine" && e.className = kept.name)
  have hfile : file ∈ classModules p "engine" := List.mem_map_of_mem hkept
  have hdelegates : file.delegates = [] := by
    simp only [file, ClassModule.of, hprops]
    rfl
  obtain ⟨-, -, hhidden, -⟩ := base_members_hidden_by_delegates pacedSchema pacedConfig hfile
  refine ⟨file, hfile, hdelegates, fun member hmember hname => ?_⟩
  obtain ⟨d, hd, -⟩ := (hhidden member hmember).1 hname
  rw [hdelegates] at hd
  cases hd

/-! ## A delegate named like the handle -/

/-- A delegate whose accessor is named like the handle. -/
def handleProperty : Property where
  name := .text "Handle"
  kind := .multicastInline
  signature := some ⟨.text "Handle__DelegateSignature", []⟩

def handleSchema : Schema where
  classes := [{
    name := .text "Actor", cppName := .text "AActor", package := .text "Engine"
    props := [handleProperty] }]

/-- What is made of the property. -/
def handleDelegate : Delegate where
  prop := handleProperty
  signature := ⟨.text "Handle__DelegateSignature", []⟩
  accessor := "handle"
  wrapper := "ActorHandleDelegate"
  isMulticast := true
  params := []

theorem named_handleSchema : handleSchema.Named where
  packages := by decide
  classes := by
    refine List.forall_mem_singleton.2 ⟨rfl, .inl rfl, .inr rfl, List.forall_mem_nil _,
      List.forall_mem_singleton.2 ⟨List.forall_mem_singleton.2 ?_, .inl rfl⟩, List.forall_mem_nil _⟩
    exact ⟨rfl, by decide, .inl rfl, .inl rfl, .inl rfl, .inl rfl, .inl rfl, .inl rfl, nofun⟩
  structs := List.forall_mem_nil _
  enums := List.forall_mem_nil _

/-- Files are made for the class, and one of its methods has the name of the handle, which this very
method uses. -/
theorem delegate_hides_handle :
    Check.generate handleSchema pacedConfig = .ok () ∧
    ∃ file ∈ classModules (Prepared.of handleSchema pacedConfig) "engine",
      "handle" ∈ classReserved ∧ "handle" ∈ file.methodNames ∧
      "    def handle(self) -> ActorHandleDelegate:" ∈ classBody file ∧
      "        return ActorHandleDelegate(self.handle, _prop)" ∈ classBody file := by
  let p := Prepared.of handleSchema pacedConfig
  obtain ⟨kept, hkept, hprops, hname⟩ : ∃ c ∈ p.context.classes.at "engine",
      c.props = [handleProperty] ∧ c.name = .text "Actor" :=
    ⟨_, Schema.mem_classes_at.2 ⟨_, List.mem_singleton_self _, rfl⟩, rfl, rfl⟩
  let file := ClassModule.of p.context kept
    (p.table.filter fun e => e.module = "engine" && e.className = kept.name)
  have hdelegates : file.delegates = [handleDelegate] := by
    simp only [file, ClassModule.of, hprops, hname]
    rfl
  have hinfo : file.info.name.spoken = "Actor" := congrArg Document.spoken hname
  have hline {line : String} (h : line ∈ delegateMethod "Actor" handleDelegate) :
      line ∈ classBody file := by
    rw [classBody, hdelegates, hinfo, List.flatMap_singleton]
    exact List.mem_append_left _ (List.mem_append_right _ h)
  have hmethod : "handle" ∈ file.methodNames := by
    rw [ClassModule.methodNames, hdelegates]
    exact List.mem_append_left _ (List.mem_append_right _ (.head _))
  refine ⟨Check.generate_of_named named_handleSchema ⟨by decide, by decide⟩, file,
    List.mem_map_of_mem hkept, .head _, hmethod, hline (.head _),
    hline (.tail _ (.tail _ (.head _)))⟩

end Bindery
