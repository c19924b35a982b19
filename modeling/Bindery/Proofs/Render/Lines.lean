import Bindery.Output

/-!
# Import lines of files

The lines by which the file of a class, a struct or a module imports from other generated files,
told apart from all its other lines.

* `classLines`, `structLines`, `moduleLines`: the lines that a file is put together from.
* `isSiblingImport`: a line that imports from a generated file, at run time or for type hints.
* `NoImports`: lines without one; apart from its references, that is all of a file.
* `import_of_mem_classLines`, `import_of_mem_structLines`, `import_of_mem_moduleLines`: the imports
  are those of the parent and of the references, and those of the symbols of a module.
-/

namespace Bindery.Render

open Script

/-! ## Lines -/

/-- The lines of the file of a class. -/
def classLines (m : ClassModule) : List String :=
  header ("binding for class " ++ m.info.name.spoken ++ " (" ++ m.info.package.spoken ++ ")")
  ++ ["from __future__ import annotations", ""]
  ++ entityImports
  ++ ["", "from .. import func_ids"]
  ++ (m.parentBinding?.map (·.importLine)).toList
  ++ m.otherReferences.lines m.context m.info.name
  ++ ["", "", "_PROPS = handle_cache()", "_OFFSETS = handle_cache()"]
  ++ m.methods.flatMap (fun f => slotLines f.plan)
  ++ ["", ""]
  ++ m.delegates.flatMap (fun d => wrapperLines m.info.name.spoken d ++ [""])
  ++ classBody m

theorem classFile_eq (m : ClassModule) : classFile m = fileText (classLines m) := rfl

/-- The lines of the file of a struct. -/
def structLines (m : StructModule) : List String :=
  let s := m.info
  let name := s.cppName.spoken
  let owner : Owner := { context := m.context, binding := name, inClass := false }
  header ("binding for struct " ++ name ++ " (" ++ s.package.spoken ++ ")")
  ++ ["from __future__ import annotations", ""]
  ++ entityImports
  ++ [""]
  ++ m.references.lines m.context s.name
  ++ ["", "", "_PROPS = handle_cache()", "", ""]
  ++ banner (name ++ " Struct")
  ++ ["class " ++ name ++ "(UStructBinding):",
    "    \"\"\"" ++ name ++ "\"\"\"",
    "",
    "    STRUCT_NAME = \"" ++ s.name.spoken ++ "\"",
    "",
    "    __slots__ = ()",
    ""]
  ++ if s.hasStaticStruct then
      structConstructors s ++ m.accessors.flatMap (accessorMethods owner)
    else []

theorem structFile_eq (m : StructModule) : structFile m = fileText (structLines m) := rfl

/-- The lines of the opening file of a module. -/
def moduleLines (ctx : Context) (module : String) : List String :=
  let symbols := moduleSymbols ctx module
  header ("bindings for module " ++ module)
  ++ symbols.map (fun s => "from ." ++ s.identifier ++ " import " ++ s.spoken)
  ++ ["", "__all__ = ["]
  ++ symbols.map (fun s => "    \"" ++ s.spoken ++ "\",")
  ++ ["]", ""]

theorem moduleFile_eq (ctx : Context) (module : String) :
    moduleFile ctx module = fileText (moduleLines ctx module) := rfl

/-! ## How lines start -/

/-- No line that goes on from these characters has one of the starts. -/
def avoids (starts : List (List Char)) (cs : List Char) : Bool :=
  starts.all fun s => !s.isPrefixOf cs && !cs.isPrefixOf s

/-- A line has none of the starts if its own start settles that. -/
theorem any_isPrefixOf_append {starts : List (List Char)} {start : String}
    (h : avoids starts start.toList = true) (rest : String) :
    starts.any (·.isPrefixOf (start ++ rest).toList) = false := by
  refine List.any_eq_false.2 fun s hs hprefix => ?_
  have havoids := List.all_eq_true.1 h s hs
  simp only [Bool.and_eq_true, Bool.not_eq_true', ← Bool.not_eq_true,
    List.isPrefixOf_iff_prefix] at havoids
  rw [List.isPrefixOf_iff_prefix, String.toList_append] at hprefix
  exact (List.prefix_or_prefix_of_prefix hprefix (List.prefix_append _ _)).elim havoids.1 havoids.2

/-! ## Imports -/

/-- What an import from a generated file starts with: nothing at run time, blanks if it is for type
hints only. -/
def importStarts : List (List Char) :=
  [['f', 'r', 'o', 'm', ' ', '.'], [' ', ' ', ' ', ' ', 'f', 'r', 'o', 'm', ' ', '.']]

/-- A line that imports from a generated file. -/
def isSiblingImport (line : String) : Bool := importStarts.any (·.isPrefixOf line.toList)

/-- No import goes on from these characters. -/
def isClear (start : List Char) : Bool :=
  importStarts.all fun s => !s.isPrefixOf start && !start.isPrefixOf s

/-- A line may go on in any way from a clear start. -/
def IsClear (start : String) : Prop := isClear start.toList = true

/-- A start that is written out is looked at by its characters. -/
theorem isClear_ofList {cs : List Char} (h : isClear cs = true) : IsClear (String.ofList cs) := by
  rwa [IsClear, String.toList_ofList]

/-- A line is judged by its start, if that is clear. -/
@[simp] theorem isSiblingImport_append {start : String} (h : IsClear start) (rest : String) :
    isSiblingImport (start ++ rest) = false := any_isPrefixOf_append h rest

@[simp] theorem isSiblingImport_of_isClear {line : String} (h : IsClear line) :
    isSiblingImport line = false := by
  rw [← String.append_empty (s := line)]
  exact isSiblingImport_append h ""

@[simp] theorem isSiblingImport_empty : isSiblingImport "" = false := rfl

/-- Lines without an import. -/
def NoImports (lines : List String) : Prop := ∀ line ∈ lines, isSiblingImport line = false

@[simp] theorem noImports_append {a b : List String} :
    NoImports (a ++ b) ↔ NoImports a ∧ NoImports b := List.forall_mem_append

@[simp] theorem noImports_cons {line : String} {lines : List String} :
    NoImports (line :: lines) ↔ isSiblingImport line = false ∧ NoImports lines :=
  List.forall_mem_cons

@[simp] theorem noImports_nil : NoImports [] := List.forall_mem_nil _

@[simp] theorem noImports_ite {c : Prop} [Decidable c] {a b : List String} :
    NoImports (if c then a else b) ↔ if c then NoImports a else NoImports b := by
  split <;> rfl

@[simp] theorem noImports_flatMap {α : Type} {f : α → List String} {xs : List α} :
    NoImports (xs.flatMap f) ↔ ∀ x ∈ xs, NoImports (f x) := List.forall_mem_flatMap

/-- An import is in the other part. -/
theorem NoImports.mem_left {a b : List String} (hb : NoImports b) {line : String}
    (h : line ∈ a ++ b) (himport : isSiblingImport line = true) : line ∈ a :=
  (List.mem_append.1 h).resolve_right fun h => Bool.false_ne_true ((hb line h).symm.trans himport)

theorem NoImports.mem_right {a b : List String} (ha : NoImports a) {line : String}
    (h : line ∈ a ++ b) (himport : isSiblingImport line = true) : line ∈ b :=
  (List.mem_append.1 h).resolve_left fun h => Bool.false_ne_true ((ha line h).symm.trans himport)

/-! ## Everything but imports -/

private theorem noImports_header (title : String) : NoImports (header title) := by
  simp (disch := apply isClear_ofList; decide) [header]

private theorem isSiblingImport_rule : isSiblingImport rule = false := by
  have hclear : IsClear "# " := isClear_ofList (by decide)
  exact isSiblingImport_append hclear _

private theorem noImports_banner (title : String) : NoImports (banner title) := by
  simp (disch := apply isClear_ofList; decide) only [banner, noImports_cons,
    isSiblingImport_rule, isSiblingImport_append, isSiblingImport_empty, noImports_nil, and_self]

/-- The runtime is imported by its full name. -/
private theorem noImports_entityImports : NoImports entityImports := by
  simp only [entityImports, nativeImports, noImports_append, noImports_cons, noImports_nil,
    isSiblingImport_empty, and_true, true_and]
  refine ⟨?_, ?_, ?_⟩
  all_goals repeat' apply And.intro
  all_goals exact isSiblingImport_of_isClear (isClear_ofList (by decide))

private theorem noImports_slotLines (plan : CallPlan) : NoImports (slotLines plan) := by
  simp (disch := apply isClear_ofList; decide) [slotLines, slotLine, slotName, cellName,
    String.append_assoc]

private theorem noImports_wrapperLines (binding : String) (d : Delegate) :
    NoImports (wrapperLines binding d) := by
  simp (disch := apply isClear_ofList; decide) [wrapperLines, String.append_assoc]

private theorem noImports_delegateMethod (binding : String) (d : Delegate) :
    NoImports (delegateMethod binding d) := by
  simp (disch := apply isClear_ofList; decide) [delegateMethod, String.append_assoc]

private theorem isSiblingImport_lookupLine (o : Owner) (p : Property) :
    isSiblingImport (lookupLine o p) = false := by
  unfold lookupLine
  simp (disch := apply isClear_ofList; decide)

private theorem isSiblingImport_checkLine (o : Owner) (p : Property) :
    isSiblingImport (checkLine o p) = false := by
  unfold checkLine
  simp (disch := apply isClear_ofList; decide) [String.append_assoc]

private theorem noImports_viewMethod (o : Owner) (a : Accessor) : NoImports (viewMethod o a) := by
  unfold viewMethod
  simp (disch := apply isClear_ofList; decide) [isSiblingImport_lookupLine, String.append_assoc]

private theorem noImports_scalarMethods (o : Owner) (a : Accessor) :
    NoImports (scalarMethods o a) := by
  unfold scalarMethods
  cases a.setter <;>
    simp (disch := apply isClear_ofList; decide) [isSiblingImport_lookupLine,
      isSiblingImport_checkLine, String.append_assoc]

private theorem noImports_arrayMethods (o : Owner) (a : Accessor) :
    NoImports (arrayMethods o a) := by
  unfold arrayMethods
  cases a.setter <;>
    simp (disch := apply isClear_ofList; decide) [isSiblingImport_lookupLine,
      isSiblingImport_checkLine, String.append_assoc]

/-- Accessors of any sort import nothing. -/
private theorem noImports_accessorMethods (o : Owner) (a : Accessor) :
    NoImports (accessorMethods o a) := by
  unfold accessorMethods
  split
  · exact noImports_viewMethod o a
  · split
    · exact noImports_arrayMethods o a
    · exact noImports_scalarMethods o a

theorem indent_append (a b : List String) : indent (a ++ b) = indent a ++ indent b :=
  List.map_append

/-- The head of a method is not blank, so it is indented. -/
theorem indent_def (rest : String) : indent ["def " ++ rest] = ["    def " ++ rest] := by
  have hline : "    " ++ ("def " ++ rest) = "    def " ++ rest := by
    rw [← String.append_assoc]
    rfl
  rw [indent, List.map_singleton, if_neg (by simp), hline]

/-- Two levels down a line is empty or starts with eight blanks. -/
theorem blank_of_mem_indent_indent {lines : List String} {line : String}
    (h : line ∈ indent (indent lines)) : line = "" ∨ ∃ rest, line = "        " ++ rest := by
  obtain ⟨inner, hinner, rfl⟩ := List.mem_map.1 h
  obtain ⟨line, -, rfl⟩ := List.mem_map.1 hinner
  by_cases hempty : line.isEmpty = true
  · -- A blank line is not indented.
    rw [if_pos hempty, if_pos hempty]
    exact .inl (String.isEmpty_iff.1 hempty)
  · have hblanks : "    " ++ ("    " ++ line) = "        " ++ line := by
      rw [← String.append_assoc]
      rfl
    rw [if_neg hempty, if_neg (by simp), hblanks]
    exact .inr ⟨line, rfl⟩

/-- Imports are one level down at most. -/
private theorem noImports_indent_indent (lines : List String) :
    NoImports (indent (indent lines)) := by
  intro line hline
  obtain rfl | ⟨rest, rfl⟩ := blank_of_mem_indent_indent hline
  · rfl
  · exact isSiblingImport_append (isClear_ofList (by decide)) rest

/-- The body of a method stands two levels down, where nothing is imported. -/
private theorem noImports_methodLines (binding : String) (f : Method) :
    NoImports (methodLines binding f) := by
  unfold methodLines
  dsimp only
  simp only [indent_append, String.append_assoc, indent_def, noImports_append,
    noImports_indent_indent, and_true]
  refine ⟨⟨?_, ?_⟩, ?_⟩
  · split <;> simp (disch := apply isClear_ofList; decide) [indent]
  · simp (disch := apply isClear_ofList; decide)
  · simp [indent]

private theorem noImports_structConstructors (s : StructInfo) :
    NoImports (structConstructors s) := by
  simp (disch := apply isClear_ofList; decide) [structConstructors, String.append_assoc]

/-- Below the head of a class nothing is imported. -/
private theorem noImports_classBody (m : ClassModule) : NoImports (classBody m) := by
  unfold classBody
  simp (disch := apply isClear_ofList; decide) [noImports_banner, noImports_accessorMethods,
    noImports_delegateMethod, noImports_methodLines, String.append_assoc]

/-! ## Files -/

/-- A line that imports a binding, at run time or for type hints. -/
inductive ImportedBy (b : Binding) : String → Prop where
  | runtime : ImportedBy b b.importLine
  | hints : ImportedBy b ("    " ++ b.importLine)

/-- The bindings that the file of entity `own` imports for its references. -/
def imported (r : References) (ctx : Context) (own : Label) : List Binding :=
  r.runtimeBindings ctx own ++ r.hintBindings ctx own

/-- What is imported for references is bound by one of them. -/
private theorem import_of_mem_lines {r : References} {ctx : Context} {own : Label} {line : String}
    (h : line ∈ r.lines ctx own) (himport : isSiblingImport line = true) :
    ∃ b ∈ imported r ctx own, ImportedBy b line := by
  have hruntime (h : line ∈ (r.runtimeBindings ctx own).map (·.importLine)) :
      ∃ b ∈ imported r ctx own, ImportedBy b line := by
    obtain ⟨b, hb, rfl⟩ := List.mem_map.1 h
    exact ⟨b, List.mem_append_left _ hb, .runtime⟩
  unfold References.lines at h
  dsimp only at h
  split at h
  · exact hruntime h
  · rcases List.mem_append.1 h with h | h
    · have hblank : NoImports (if ((r.runtimeBindings ctx own).map (·.importLine)).isEmpty then []
          else [""]) := by simp
      exact hruntime (hblank.mem_left h himport)
    · have hopening : NoImports ["if TYPE_CHECKING:"] := by
        simp (disch := apply isClear_ofList; decide)
      obtain ⟨b, hb, rfl⟩ := List.mem_map.1 (hopening.mem_right (a := [_]) h himport)
      exact ⟨b, List.mem_append_right _ hb, .hints⟩

/-- What is needed at run time is imported at run time. -/
theorem importLine_mem_lines {r : References} {ctx : Context} {own : Label} {b : Binding}
    (h : b ∈ r.runtimeBindings ctx own) : b.importLine ∈ r.lines ctx own := by
  have hline := List.mem_map_of_mem (f := (·.importLine)) h
  unfold References.lines
  dsimp only
  split
  · exact hline
  · exact List.mem_append_left _ (List.mem_append_left _ hline)

/-- The file of a class imports the slots, its parent and its references. -/
theorem import_of_mem_classLines {m : ClassModule} {line : String} (h : line ∈ classLines m)
    (himport : isSiblingImport line = true) :
    line = "from .. import func_ids" ∨
    ∃ b, (m.parentBinding? = some b ∨ b ∈ imported m.otherReferences m.context m.info.name) ∧
      ImportedBy b line := by
  have hopening : NoImports (header
      ("binding for class " ++ m.info.name.spoken ++ " (" ++ m.info.package.spoken ++ ")")
      ++ ["from __future__ import annotations", ""] ++ entityImports) := by
    simp (disch := apply isClear_ofList; decide) [noImports_header, noImports_entityImports]
  have hcells : NoImports ["", "", "_PROPS = handle_cache()", "_OFFSETS = handle_cache()"] := by
    simp (disch := apply isClear_ofList; decide)
  have hslots : NoImports (m.methods.flatMap fun f => slotLines f.plan) := by
    simp [noImports_slotLines]
  have hblank : NoImports ["", ""] := by simp
  have hwrappers : NoImports
      (m.delegates.flatMap fun d => wrapperLines m.info.name.spoken d ++ [""]) := by
    simp [noImports_wrapperLines]
  -- What imports nothing is taken off from the end, so that the parts with imports are left.
  have h := (noImports_classBody m).mem_left h himport
  have h := hcells.mem_left (hslots.mem_left (hblank.mem_left (hwrappers.mem_left h himport)
    himport) himport) himport
  rcases List.mem_append.1 h with h | h
  · rcases List.mem_append.1 h with h | h
    · rcases List.mem_cons.1 (hopening.mem_right h himport) with rfl | h
      · cases himport
      · exact .inl (List.mem_singleton.1 h)
    · obtain ⟨b, hb, rfl⟩ := Option.map_eq_some_iff.1 (Option.mem_toList.1 h)
      exact .inr ⟨b, .inl hb, .runtime⟩
  · obtain ⟨b, hb, hline⟩ := import_of_mem_lines h himport
    exact .inr ⟨b, .inr hb, hline⟩

/-- What the file of a class imports for its references. -/
theorem importLine_mem_classLines {m : ClassModule} {b : Binding}
    (h : b ∈ m.otherReferences.runtimeBindings m.context m.info.name) :
    b.importLine ∈ classLines m := by
  unfold classLines
  simp only [List.mem_append, importLine_mem_lines h, true_or, or_true]

/-- The file of a struct imports its references only. -/
theorem import_of_mem_structLines {m : StructModule} {line : String} (h : line ∈ structLines m)
    (himport : isSiblingImport line = true) :
    ∃ b ∈ imported m.references m.context m.info.name, ImportedBy b line := by
  have hopening : NoImports (header
      ("binding for struct " ++ m.info.cppName.spoken ++ " (" ++ m.info.package.spoken ++ ")")
      ++ ["from __future__ import annotations", ""] ++ entityImports ++ [""]) := by
    simp (disch := apply isClear_ofList; decide) [noImports_header, noImports_entityImports]
  have hcells : NoImports ["", "", "_PROPS = handle_cache()", "", ""] := by
    simp (disch := apply isClear_ofList; decide)
  have hclass : NoImports ["class " ++ m.info.cppName.spoken ++ "(UStructBinding):",
      "    \"\"\"" ++ m.info.cppName.spoken ++ "\"\"\"", "",
      "    STRUCT_NAME = \"" ++ m.info.name.spoken ++ "\"", "", "    __slots__ = ()", ""] := by
    simp (disch := apply isClear_ofList; decide) [String.append_assoc]
  have hmembers (o : Owner) : NoImports (if m.info.hasStaticStruct then
      structConstructors m.info ++ m.accessors.flatMap (accessorMethods o) else []) := by
    simp [noImports_structConstructors, noImports_accessorMethods]
  have h := (hmembers _).mem_left h himport
  have h := hcells.mem_left ((noImports_banner _).mem_left (hclass.mem_left h himport) himport)
    himport
  exact import_of_mem_lines (hopening.mem_right h himport) himport

/-- The opening file of a module imports the symbols of the module. -/
theorem import_of_mem_moduleLines {ctx : Context} {module line : String}
    (h : line ∈ moduleLines ctx module) (himport : isSiblingImport line = true) :
    ∃ s ∈ moduleSymbols ctx module, line = "from ." ++ s.identifier ++ " import " ++ s.spoken := by
  have hall : NoImports ["", "__all__ = ["] := by simp (disch := apply isClear_ofList; decide)
  have hnames : NoImports
      ((moduleSymbols ctx module).map fun s => "    \"" ++ s.spoken ++ "\",") := by
    intro line hline
    obtain ⟨s, -, rfl⟩ := List.mem_map.1 hline
    simp (disch := apply isClear_ofList; decide) [String.append_assoc]
  have hend : NoImports ["]", ""] := by simp (disch := apply isClear_ofList; decide)
  have h := hall.mem_left (hnames.mem_left (hend.mem_left h himport) himport) himport
  obtain ⟨s, hs, rfl⟩ := List.mem_map.1 ((noImports_header _).mem_right h himport)
  exact ⟨s, hs, rfl⟩

end Bindery.Render
