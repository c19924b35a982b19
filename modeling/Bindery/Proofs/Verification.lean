import Bindery.Proofs.FuncTable.Positions
import Bindery.Verify

/-!
# What a verification tells

The verification of a run accepts a table whose constants are distinct, and what it asks of them can
be read off the slots of the classes in any order.

* `Schema.slots`, `Schema.map_table_perm`: the table up to its order.
* `duplicateConstants_eq_nil_iff`, `verify_eq_nil_iff`: what is verified.
* `Schema.texts_of_mem_table`: the names that constants are made of are texts.
* `Schema.verified_of_slots`: a table that is verified by its slots.
-/

namespace Bindery

/-! ## Tables up to their order -/

namespace Schema

/-- The slots of the enabled classes, in the order of the schema. -/
def slots (schema : Schema) (config : Config) : List Entry :=
  (schema.enabledClasses config).flatMap fun c =>
    classEntries (schema.unblocked config) c.1
      (filterClass (schema.unblocked config) config.blocklist c.2).1

variable {schema : Schema} {config : Config}

theorem slots_perm :
    ((Prepared.of schema config).table.map Entry.unnumbered).Perm (schema.slots config) :=
  Context.funcTable_perm.trans entries_perm

/-- What does not depend on their indices is the same of the entries of the table. -/
theorem map_table_perm {β : Type} {f : Entry → β} (hf : ∀ e, f e.unnumbered = f e) :
    ((Prepared.of schema config).table.map f).Perm ((schema.slots config).map f) := by
  have hmap : f ∘ Entry.unnumbered = f := funext hf
  have hperm : (((Prepared.of schema config).table.map Entry.unnumbered).map f).Perm
      ((schema.slots config).map f) := slots_perm.map f
  rwa [List.map_map, hmap] at hperm

theorem unnumbered_mem_slots {e : Entry} (he : e ∈ (Prepared.of schema config).table) :
    e.unnumbered ∈ schema.slots config :=
  slots_perm.mem_iff.1 (List.mem_map_of_mem he)

end Schema

/-! ## Problems -/

/-- The constants after those that were seen are neither among them nor repeated. -/
theorem duplicateConstants_go {seen names : List String} :
    duplicateConstants.go seen names = [] ↔ names.Nodup ∧ ∀ n ∈ names, n ∉ seen := by
  induction names generalizing seen with
  | nil => simp [duplicateConstants.go]
  | cons n rest ih =>
    rw [duplicateConstants.go, List.nodup_cons, List.forall_mem_cons]
    by_cases hn : n ∈ seen
    · simp [hn]
    · rw [if_neg (by simpa using hn), ih]
      constructor
      · rintro ⟨hrest, hseen⟩
        exact ⟨⟨fun hm => hseen n hm List.mem_cons_self, hrest⟩, hn, fun m hm hms =>
          hseen m hm (List.mem_cons_of_mem _ hms)⟩
      · rintro ⟨⟨hnew, hrest⟩, -, hseen⟩
        refine ⟨hrest, fun m hm hms => ?_⟩
        rcases List.mem_cons.1 hms with rfl | hms
        · exact hnew hm
        · exact hseen m hm hms

/-- No constant occurs again just when they are distinct. -/
theorem duplicateConstants_eq_nil_iff {table : List Entry} :
    duplicateConstants table = [] ↔ (table.map Entry.constant).Nodup := by
  simp [duplicateConstants, duplicateConstants_go]

/-- The entries of a prepared table go by their positions. -/
theorem idGaps_prepared (schema : Schema) (config : Config) :
    idGaps (Prepared.of schema config).table (tableIds (Prepared.of schema config).table) = [] := by
  rw [idGaps, Option.toList_eq_nil_iff, Option.map_eq_none_iff, List.find?_eq_none]
  rintro ⟨⟨e, id⟩, i⟩ hmem
  rw [List.mk_mem_zipIdx_iff_getElem?, List.getElem?_zip_eq_some] at hmem
  obtain ⟨he, hid⟩ := hmem
  obtain ⟨hi, rfl⟩ := List.getElem?_eq_some_iff.1 he
  obtain rfl : id = .int (Prepared.of schema config).table[i].id := by
    simpa [tableIds, he] using hid.symm
  rw [Prepared.table_id hi]
  simp [Label.same, Label.number?]

/-- A verification of a prepared table accepts it just when its constants are distinct, the required
files are there with something in them, and every module has its opening file. -/
theorem verify_eq_nil_iff {schema : Schema} {config : Config} {dir : Directory}
    {modules : List String} {scripts sources : FilePath} :
    verify dir (Prepared.of schema config).table (tableIds (Prepared.of schema config).table)
        modules scripts sources = [] ↔
      ((Prepared.of schema config).table.map Entry.constant).Nodup ∧
      (∀ n ∈ requiredScripts, fileProblem? dir "Python" (scripts.join (.parse n)) = none) ∧
      (∀ n ∈ requiredSources, fileProblem? dir "C++" (sources.join (.parse n)) = none) ∧
      ∀ m ∈ modules,
        (dir ((scripts.join (.parse m)).join (.parse "__init__.py"))).isSome = true := by
  have hrepeated : ((if (duplicateConstants (Prepared.of schema config).table).isEmpty then []
      else [Problem.duplicateConstants (duplicateConstants (Prepared.of schema config).table)]) :
        List Problem) = [] ↔ ((Prepared.of schema config).table.map Entry.constant).Nodup := by
    rw [← duplicateConstants_eq_nil_iff]
    split <;> simp_all
  simp only [verify, idGaps_prepared, List.nil_append, List.append_eq_nil_iff, hrepeated,
    List.filterMap_eq_nil_iff, and_assoc]
  refine and_congr_right' (and_congr_right' (and_congr_right' (forall₂_congr fun m _ => ?_)))
  split <;> simp_all

/-! ## Names of a verified table -/

theorem Label.isText_of_snakeCase {l : Label} (hkey : l.isKey = true)
    (hsnake : Check.snakeCase l = .ok ()) : l.isText = true := by
  cases l with
  | text => rfl
  | list | table => cases hkey
  | _ => cases hsnake

namespace Schema

variable {schema : Schema} {config : Config}

/-- A class in the table and its functions have texts for names. -/
theorem texts_of_mem_table (hprepare : Check.prepare schema config = .ok ())
    (hconstants : Check.constants (Prepared.of schema config).table = .ok ()) {e : Entry}
    (he : e ∈ (Prepared.of schema config).table) :
    e.className.isText = true ∧ e.funcName.isText = true := by
  rw [Check.prepare, Check.bind_eq_ok_iff] at hprepare
  obtain ⟨hbuild, hrest⟩ := hprepare
  have hentry : e.unnumbered ∈ (Prepared.of schema config).context.entries :=
    Context.funcTable_perm.mem_iff.1 (List.mem_map_of_mem he)
  obtain ⟨c, hkey⟩ := exists_keyOf (Check.bind_eq_ok_iff.1 hrest).1 hentry
  have hclass : c.2.name.isKey = true := by
    obtain ⟨g, hg, -, hcg⟩ := Groups.mem_members.1 (mem_members_build hkey.mem)
    have hgroup := Check.forM_eq_ok_iff.1 (Check.build_eq_ok_iff.1 hbuild).2.2.1 g hg
    exact Check.require_eq_ok_iff.1 (Check.forM_eq_ok_iff.1 (Check.bind_eq_ok_iff.1 hgroup).1 _
      (List.mem_map_of_mem hcg))
  have hsnake := (Check.bind_eq_ok_iff.1 (Check.forM_eq_ok_iff.1 hconstants e he)).1
  refine ⟨Label.isText_of_snakeCase ?_ hsnake, hkey.funcName⟩
  rw [show e.className = c.2.name from hkey.className]
  exact hclass

/-- A table is verified by its slots if all files are there. -/
theorem verified_of_slots (hspelled : Check.constants (schema.slots config) = .ok ())
    (hconstants : ((schema.slots config).map Entry.constant).Nodup) :
    Check.constants (Prepared.of schema config).table = .ok () ∧
    ∀ modules scripts sources, verify (fun _ => some 1) (Prepared.of schema config).table
      (tableIds (Prepared.of schema config).table) modules scripts sources = [] := by
  constructor
  · rw [Check.constants, Check.forM_eq_ok_iff] at hspelled ⊢
    exact fun e he => hspelled e.unnumbered (unnumbered_mem_slots he)
  · intro modules scripts sources
    have hnodup := (map_table_perm fun _ => rfl).nodup_iff.2 hconstants
    exact verify_eq_nil_iff.2 ⟨hnodup, fun _ _ => rfl, fun _ _ => rfl, fun _ _ => rfl⟩

end Schema

end Bindery
