import Bindery.Proofs.Accessor.MethodNames
import Bindery.Proofs.Preparation
import Bindery.Proofs.Render.Lines
import Bindery.Proofs.Verification

/-!
# Methods in the body of a class

The lines by which the body of a generated class opens its methods.

* `Opens`: a line opens the method of a name.
* `Opened`: the lines that open methods are those of some names, in order.
* `opened_classBody`: the names of the methods are all that the body of a class opens.
* `methods_have_own_names`: the methods of a class have distinct names.
-/

namespace Bindery.Render

open Script

/-! ## Lines that open methods -/

/-- What a line that opens a method starts with. -/
def methodStarts : List (List Char) := [[' ', ' ', ' ', ' ', 'd', 'e', 'f', ' ']]

/-- A line that opens a method. -/
def isMethodLine (line : String) : Bool := methodStarts.any (·.isPrefixOf line.toList)

/-- A line opens the method of a name. -/
def Opens (line name : String) : Prop := ∃ rest, line = "    def " ++ name ++ "(" ++ rest

/-- The lines that open methods are those of the names, in order. -/
def Opened (lines names : List String) : Prop :=
  List.Forall₂ Opens (lines.filter isMethodLine) names

theorem Opens.append {line name : String} (h : Opens line name) (rest : String) :
    Opens (line ++ rest) name := by
  obtain ⟨more, rfl⟩ := h
  exact ⟨more ++ rest, String.append_assoc⟩

theorem opens_signature (name : String) {signature : String} (tail : String)
    (h : signature = "(" ++ tail) : Opens ("    def " ++ name ++ signature) name :=
  ⟨tail, by rw [h, ← String.append_assoc]⟩

/-- A line that opens a method is seen to do so by its start. -/
theorem isMethodLine_of_opens {line name : String} (h : Opens line name) :
    isMethodLine line = true := by
  obtain ⟨rest, rfl⟩ := h
  refine List.any_eq_true.2 ⟨_, .head _, List.isPrefixOf_iff_prefix.2 ?_⟩
  rw [String.append_assoc, String.append_assoc, String.toList_append]
  exact List.prefix_append _ _

/-- What a line goes on from that opens no method. -/
def IsOther (start : String) : Prop := avoids methodStarts start.toList = true

theorem isOther_ofList {cs : List Char} (h : avoids methodStarts cs = true) :
    IsOther (String.ofList cs) := by
  rwa [IsOther, String.toList_ofList]

@[simp] theorem isMethodLine_append {start : String} (h : IsOther start) (rest : String) :
    isMethodLine (start ++ rest) = false := any_isPrefixOf_append h rest

@[simp] theorem isMethodLine_of_isOther {line : String} (h : IsOther line) :
    isMethodLine line = false := by
  rw [← String.append_empty (s := line)]
  exact isMethodLine_append h ""

@[simp] theorem isMethodLine_empty : isMethodLine "" = false := rfl

namespace Opened

variable {a b names names' : List String} {line name : String}

theorem nil : Opened [] [] := List.Forall₂.nil

theorem append (ha : Opened a names) (hb : Opened b names') :
    Opened (a ++ b) (names ++ names') := by
  rw [Opened, List.filter_append]
  exact List.rel_append ha hb

/-- A line that opens a method. -/
theorem cons (hline : Opens line name) (h : Opened a names) :
    Opened (line :: a) (name :: names) := by
  rw [Opened, List.filter_cons_of_pos (isMethodLine_of_opens hline)]
  exact List.Forall₂.cons hline h

/-- Lines of which none opens a method. -/
theorem of_none (h : ∀ line ∈ a, isMethodLine line = false) : Opened a [] := by
  rw [Opened, List.filter_eq_nil_iff.2 fun line hline => by simp [h line hline]]
  exact List.Forall₂.nil

theorem flatMap {α : Type} {f g : α → List String} {xs : List α}
    (h : ∀ x ∈ xs, Opened (f x) (g x)) : Opened (xs.flatMap f) (xs.flatMap g) := by
  induction xs with
  | nil => exact nil
  | cons x xs ih =>
    exact (h x (.head _)).append (ih fun y hy => h y (.tail _ hy))

theorem map {α : Type} {f : α → List String} {g : α → String} {xs : List α}
    (h : ∀ x ∈ xs, Opened (f x) [g x]) : Opened (xs.flatMap f) (xs.map g) := by
  rw [List.map_eq_flatMap]
  exact flatMap h

end Opened

/-! ## The parts of a class -/

private theorem isMethodLine_lookupLine (o : Owner) (p : Property) :
    isMethodLine (lookupLine o p) = false := by
  unfold lookupLine
  simp (disch := apply isOther_ofList; decide)

private theorem isMethodLine_checkLine (o : Owner) (p : Property) :
    isMethodLine (checkLine o p) = false := by
  unfold checkLine
  simp (disch := apply isOther_ofList; decide) [String.append_assoc]

theorem opened_viewMethod (o : Owner) (a : Accessor) : Opened (viewMethod o a) [a.getter] := by
  refine .cons (((opens_signature a.getter "self) -> " rfl).append _).append _) (.of_none ?_)
  simp (disch := apply isOther_ofList; decide) [isMethodLine_lookupLine, String.append_assoc]

/-- The getter, and the setter unless the accessor lacks it. -/
theorem opened_scalarMethods (o : Owner) (a : Accessor) : Opened (scalarMethods o a) a.methods := by
  unfold scalarMethods
  refine .append (.cons (((opens_signature a.getter "self) -> " rfl).append _).append _)
    (.of_none ?_)) ?_
  · simp (disch := apply isOther_ofList; decide) [isMethodLine_lookupLine,
      isMethodLine_checkLine, String.append_assoc]
  · cases a.setter with
    | none => exact .nil
    | some setter =>
      refine .cons (((opens_signature setter "self, value: " rfl).append _).append _) (.of_none ?_)
      simp (disch := apply isOther_ofList; decide) [isMethodLine_lookupLine,
        isMethodLine_checkLine, String.append_assoc]

theorem opened_arrayMethods (o : Owner) (a : Accessor) : Opened (arrayMethods o a) a.methods := by
  unfold arrayMethods
  dsimp only
  refine .append (.append (.append (.cons
    (((opens_signature a.getter "self, index: int) -> " rfl).append _).append _) .nil)
    (.of_none ?_)) (.of_none ?_)) ?_
  · simp (disch := apply isOther_ofList; decide) [String.append_assoc]
  · simp (disch := apply isOther_ofList; decide) [isMethodLine_lookupLine,
      isMethodLine_checkLine, String.append_assoc]
  · cases a.setter with
    | none => exact .nil
    | some setter =>
      refine .append (.append (.cons
        (((opens_signature setter "self, index: int, value: " rfl).append _).append _) .nil)
        (.of_none ?_)) (.of_none ?_)
      · simp (disch := apply isOther_ofList; decide) [String.append_assoc]
      · simp (disch := apply isOther_ofList; decide) [isMethodLine_lookupLine,
          isMethodLine_checkLine, String.append_assoc]

/-- An accessor of any sort opens its methods, the getter first. -/
theorem opened_accessorMethods (o : Owner) {a : Accessor}
    (hview : a.isView = true → a.setter = none) : Opened (accessorMethods o a) a.methods := by
  unfold accessorMethods
  split
  · next h =>
    rw [Accessor.methods, hview h]
    exact opened_viewMethod o a
  · split
    · exact opened_arrayMethods o a
    · exact opened_scalarMethods o a

theorem opened_delegateMethod (binding : String) (d : Delegate) :
    Opened (delegateMethod binding d) [d.accessor] := by
  unfold delegateMethod
  dsimp only
  refine .cons (((opens_signature d.accessor "self) -> " rfl).append _).append _) (.of_none ?_)
  simp (disch := apply isOther_ofList; decide) [String.append_assoc]

private theorem isMethodLine_of_mem_indent_indent {lines : List String} {line : String}
    (h : line ∈ indent (indent lines)) : isMethodLine line = false := by
  obtain rfl | ⟨rest, rfl⟩ := blank_of_mem_indent_indent h
  · rfl
  · exact isMethodLine_append (isOther_ofList (by decide)) rest

/-- The body of a method is indented below its head, so it opens none. -/
theorem opened_methodLines (binding : String) (f : Method) :
    Opened (methodLines binding f) [f.name] := by
  unfold methodLines
  dsimp only
  have hdef : Opens ("    def " ++ f.name ++ "(" ++ (f.plan.signature ++ ") -> " ++
      f.plan.returnHint.spoken ++ ":")) f.name := ⟨_, rfl⟩
  rw [indent_append, indent_append, indent_append]
  -- The head is written at the margin and indented with the rest.
  simp only [String.append_assoc, indent_def] at hdef ⊢
  refine .append (.append (.append (.of_none ?_) (.cons hdef .nil))
    (.of_none fun line => isMethodLine_of_mem_indent_indent)) (.of_none ?_)
  · split <;> simp (disch := apply isOther_ofList; decide) [indent]
  · simp [indent]

private theorem isMethodLine_rule : isMethodLine rule = false := by
  have hother : IsOther "# " := isOther_ofList (by decide)
  exact isMethodLine_append hother _

/-- The body of a class opens the methods that it has names for, in order. -/
theorem opened_classBody {m : ClassModule}
    (hviews : ∀ a ∈ m.accessors, a.isView = true → a.setter = none) :
    Opened (classBody m) m.methodNames := by
  have hbanner : Opened (banner (m.info.name.spoken ++ " Class")) [] := by
    refine .of_none ?_
    simp (disch := apply isOther_ofList; decide) [banner, isMethodLine_rule]
  unfold classBody
  dsimp only
  refine .append (.append (.append (.append hbanner (.of_none ?_)) (.flatMap fun a ha =>
    opened_accessorMethods _ (hviews a ha))) (.map fun d _ => opened_delegateMethod _ d))
    (.map fun f _ => opened_methodLines _ f)
  simp (disch := apply isOther_ofList; decide) [String.append_assoc]

/-! ## The classes of a run -/

/-- The body of a generated class opens one method for each of its names, in order, and no name
comes twice. Every function of the class in the table has a method with its name, even if it is that
of an accessor. An accessor of a property lacks its setter if a function of the class has the
setter's name, and with or without it a method has that name. -/
theorem methods_have_own_names (schema : Schema) (config : Config) {m : String}
    {file : ClassModule} (h : file ∈ classModules (Prepared.of schema config) m) :
    let p := Prepared.of schema config
    List.Forall₂ Opens ((classBody file).filter isMethodLine) file.methodNames ∧
    file.methodNames.Nodup ∧
    (∀ e ∈ p.table, e.module = m → e.className = file.info.name →
      e.methodName ∈ file.methodNames) ∧
    ∀ a ∈ file.accessors, ∀ getter setter,
      a.prop.access p.context true = .fields getter setter →
      a.getter = getter ∧ (a.setter = some setter ∨ a.setter = none) ∧
      (∀ e ∈ p.table, e.module = m → e.className = file.info.name → e.methodName = setter →
        a.setter = none) ∧
      setter ∈ file.methodNames := by
  intro p
  obtain ⟨c, -, rfl⟩ := List.mem_map.1 h
  have hentry {e : Entry} (he : e ∈ p.table) (hm : e.module = m) (hc : e.className = c.name) :
      e ∈ p.table.filter fun e => e.module = m && e.className = c.name :=
    List.mem_filter.2 ⟨he, by simp [hm, hc]⟩
  refine ⟨opened_classBody fun a => ClassModule.setter_of_isView,
    ClassModule.nodup_methodNames p.context c _,
    fun e he hm hc => ClassModule.methodName_mem (hentry he hm hc),
    fun a ha getter setter haccess => ?_⟩
  obtain ⟨hgetter, hsetter, hyields, hmem⟩ := ClassModule.setter_mem ha haccess
  exact ⟨hgetter, hsetter, fun e he hm hc => hyields e (hentry he hm hc), hmem⟩

/-! ## A setter that is a function -/

def speedProperty : Property where
  name := .text "Speed"
  kind := .float

/-- A class with a property whose setter would have the name of its function. -/
def pacedClass : ClassInfo where
  name := .text "Actor"
  cppName := .text "AActor"
  package := .text "Engine"
  props := [speedProperty]
  funcs := [{ name := .text "SetSpeed", flags := 1024 }]

def pacedSchema : Schema where
  classes := [pacedClass]

def pacedConfig : Config where
  features := ["core"]
  modules := [⟨"Engine", .text "engine", .text "core"⟩]

/-- The property has a getter and no setter, but there is a method with the setter's name. -/
theorem methods_have_own_names_paced :
    ∃ file ∈ classModules (Prepared.of pacedSchema pacedConfig) "engine",
      (∃ a ∈ file.accessors, a.getter = "get_speed" ∧ a.setter = none) ∧
      "set_speed" ∈ file.methodNames ∧ file.methodNames.Nodup := by
  let p := Prepared.of pacedSchema pacedConfig
  obtain ⟨kept, hkept, hprops, hname⟩ : ∃ c ∈ p.context.classes.at "engine",
      c.props = [speedProperty] ∧ c.name = .text "Actor" :=
    ⟨_, Schema.mem_classes_at.2 ⟨_, List.mem_singleton_self _, rfl⟩, rfl, rfl⟩
  have hslots : (pacedSchema.slots pacedConfig).map
      (fun e => (e.module, e.className, e.methodName)) =
        [("engine", .text "Actor", "set_speed")] := by
    decide +kernel
  obtain ⟨e, he, hslot⟩ : ∃ e ∈ p.table,
      (e.module, e.className, e.methodName) = ("engine", .text "Actor", "set_speed") :=
    List.mem_map.1 ((Schema.map_table_perm fun _ => rfl).mem_iff.2 (hslots ▸ .head _))
  obtain ⟨hmodule, hclass, hmethod⟩ : e.module = "engine" ∧ e.className = .text "Actor" ∧
      e.methodName = "set_speed" := by simpa using hslot
  let file := ClassModule.of p.context kept
    (p.table.filter fun e => e.module = "engine" && e.className = kept.name)
  have hfile : file ∈ classModules p "engine" := List.mem_map_of_mem hkept
  have haccess : speedProperty.access p.context true = .fields "get_speed" "set_speed" := rfl
  obtain ⟨a, ha, hprop⟩ : ∃ a ∈ file.accessors, a.prop = speedProperty :=
    ClassModule.exists_accessor hprops haccess
  obtain ⟨-, hdistinct, -, hsetters⟩ := methods_have_own_names pacedSchema pacedConfig hfile
  obtain ⟨hgetter, -, hyields, hmem⟩ := hsetters a ha _ _ (hprop ▸ haccess)
  exact ⟨file, hfile, ⟨a, ha, hgetter, hyields e he hmodule (hclass.trans hname.symm) hmethod⟩,
    hmem, hdistinct⟩

end Bindery.Render
