import Bindery.ClassModule
import Bindery.Proofs.Plan.Alignment

/-!
# What becomes of collected properties

The accessors of an entity are collected in one pass over its properties, and the delegates of a
class in another one. Either pass carries the names that were used so far. Here each property gets
a fate of its own, and a pass gives what its fates say, in the order of the properties. So
everything in the file of a class or struct comes from a property or from a table entry that passed
the filters.

* `AccessorFate`, `accessorFates`, `collectFrom_eq`: the pass for accessors.
* `DelegateFate`, `delegateFates`, `collectDelegates_eq`: the pass for delegates.
* `of_mem_accessorFates`, `of_mem_delegateFates`: the fates that a property can have; a name that
  is taken belongs to an accessor.
* `Accessor.IsOf`: an accessor and the property behind it.
* `Delegate.IsOf`: a delegate and the property behind it.
* `ClassModule.accessor_of`, `delegate_of`, `method_of`, `StructModule.accessor_of`: the members of
  a module are of such origin.
-/

namespace Bindery

variable {ctx : Context} {owner : Label} {inClass : Bool} {functions : List String}

/-! ## Fates of accessors -/

/-- What becomes of a property when accessors are collected. -/
inductive AccessorFate where
  | bound (a : Accessor)
  | skipped (reason : String)
  /-- It is left to the delegates, or to nothing. -/
  | ignored
  /-- Another accessor has the name that its own would have. -/
  | clashed (name : String)

namespace AccessorFate

def accessor? : AccessorFate → Option Accessor
  | bound a => some a
  | _ => none

def reason? : AccessorFate → Option String
  | skipped reason => some reason
  | _ => none

/-- The names that are used from then on. -/
def names : AccessorFate → List String
  | bound a => a.methods.reverse
  | _ => []

theorem exists_of_mem_names {fate : AccessorFate} {name : String} (h : name ∈ fate.names) :
    ∃ a, fate = bound a ∧ name ∈ a.methods := by
  cases fate with
  | bound a => exact ⟨a, rfl, List.mem_reverse.mp h⟩
  | _ => cases h

end AccessorFate

/-- What becomes of a property after those whose accessors use the names in `seen`. -/
def Property.accessorFate (ctx : Context) (inClass : Bool) (functions seen : List String)
    (p : Property) : AccessorFate :=
  match p.access ctx inClass with
  | .skipped reason => .skipped reason
  | .ignored => .ignored
  | .view name parts =>
    if seen.contains name then .clashed name
    else .bound { prop := p, mapping := p.mapping, getter := name, parts := some parts }
  | .fields getter setter =>
    if seen.contains getter then .clashed getter
    else
      let taken := functions.contains setter || (getter :: seen).contains setter
      .bound { prop := p, mapping := p.mapping, getter,
               setter := if taken then none else some setter }

/-- The fates of properties one after the other. -/
def accessorFates (ctx : Context) (inClass : Bool) (functions seen : List String) :
    List Property → List AccessorFate
  | [] => []
  | p :: rest =>
    let fate := p.accessorFate ctx inClass functions seen
    fate :: accessorFates ctx inClass functions (fate.names ++ seen) rest

@[simp] theorem length_accessorFates (props : List Property) (seen : List String) :
    (accessorFates ctx inClass functions seen props).length = props.length := by
  induction props generalizing seen with
  | nil => rfl
  | cons p rest ih => simp [accessorFates, ih]

/-- The record of a property that is left out for a reason. -/
def Property.record (owner : Label) (p : Property) (reason : String) : Skip :=
  ⟨owner, p.name, reason⟩

/-- One property of the pass. -/
theorem collectFrom_cons (p : Property) (rest : List Property) (seen : List String) :
    collectFrom ctx owner inClass functions seen (p :: rest) =
      let fate := p.accessorFate ctx inClass functions seen
      let (accessors, skips) :=
        collectFrom ctx owner inClass functions (fate.names ++ seen) rest
      (fate.accessor?.toList ++ accessors,
        (fate.reason?.map (p.record owner)).toList ++ skips) := by
  rw [collectFrom, Property.accessorFate]
  cases p.access ctx inClass with
  | skipped reason => rfl
  | ignored => rfl
  | view name parts =>
    dsimp only
    split <;> rfl
  | fields getter setter =>
    dsimp only
    split
    · rfl
    · cases functions.contains setter || (getter :: seen).contains setter <;> rfl

/-- The pass over the properties gives what their fates say. -/
theorem collectFrom_eq (props : List Property) (seen : List String) :
    collectFrom ctx owner inClass functions seen props =
      let fates := accessorFates ctx inClass functions seen props
      (fates.filterMap AccessorFate.accessor?,
        (props.zip fates).filterMap fun x => x.2.reason?.map (x.1.record owner)) := by
  induction props generalizing seen with
  | nil => rfl
  | cons p rest ih =>
    simp only [collectFrom_cons, ih, accessorFates, List.zip_cons_cons, List.filterMap_cons]
    cases p.accessorFate ctx inClass functions seen <;> rfl

/-- The name of the getter or the view that a property would have. -/
def Access.getter? : Access → Option String
  | view name _ => some name
  | fields getter _ => some getter
  | skipped _ | ignored => none

/-- The fates that a property can have after accessors that use the names in `used`. -/
inductive AccessorFate.Of (ctx : Context) (inClass : Bool) (used : List String) (p : Property) :
    AccessorFate → Prop where
  | bound {a : Accessor} : a.prop = p → (p.access ctx inClass).getter? = some a.getter →
      Of ctx inClass used p (.bound a)
  | skipped {reason : String} : p.access ctx inClass = .skipped reason →
      Of ctx inClass used p (.skipped reason)
  | ignored : p.access ctx inClass = .ignored → Of ctx inClass used p .ignored
  | clashed {name : String} : (p.access ctx inClass).getter? = some name → name ∈ used →
      Of ctx inClass used p (.clashed name)

/-- A property has one of its fates, and falls to a clash only if its name is among those seen. -/
theorem Property.accessorFate_of (p : Property) (seen : List String) :
    (p.accessorFate ctx inClass functions seen).Of ctx inClass seen p := by
  unfold accessorFate
  split
  · next h => exact .skipped h
  · next h => exact .ignored h
  · next name parts h =>
    split
    · next hseen => exact .clashed (by rw [h]; rfl) (List.contains_iff_mem.mp hseen)
    · exact .bound rfl (by rw [h]; rfl)
  · next getter setter h =>
    split
    · next hseen => exact .clashed (by rw [h]; rfl) (List.contains_iff_mem.mp hseen)
    · exact .bound rfl (by rw [h]; rfl)

/-- The fate of each property in a pass; the names that were used by then are those at its start
and those of accessors of the pass. -/
theorem of_mem_accessorFates {props : List Property} {seen : List String} {p : Property}
    {fate : AccessorFate}
    (h : (p, fate) ∈ props.zip (accessorFates ctx inClass functions seen props)) :
    ∃ used, fate.Of ctx inClass used p ∧ ∀ name ∈ used, name ∈ seen ∨
      ∃ a, .bound a ∈ accessorFates ctx inClass functions seen props ∧ name ∈ a.methods := by
  induction props generalizing seen with
  | nil => cases h
  | cons q rest ih =>
    have hfirst : (q.accessorFate ctx inClass functions seen).Of ctx inClass seen q :=
      q.accessorFate_of seen
    simp only [accessorFates, List.zip_cons_cons, List.mem_cons, Prod.mk.injEq] at h
    rcases h with ⟨rfl, rfl⟩ | h
    · exact ⟨seen, hfirst, fun name hname => .inl hname⟩
    · obtain ⟨used, hof, hused⟩ := ih h
      refine ⟨used, hof, fun name hname => ?_⟩
      rcases hused name hname with hname | ⟨a, ha, hname⟩
      · -- What the rest starts with was used before, or belongs to the accessor of `q`.
        rcases List.mem_append.mp hname with hname | hname
        · obtain ⟨a, ha, hname⟩ := AccessorFate.exists_of_mem_names hname
          exact .inr ⟨a, ha ▸ .head _, hname⟩
        · exact .inl hname
      · exact .inr ⟨a, .tail _ ha, hname⟩

/-! ## Fates of delegates -/

/-- What becomes of a property when delegates are collected. -/
inductive DelegateFate where
  | bound (d : Delegate)
  | skipped (reason : String)
  /-- It is no delegate. -/
  | other

namespace DelegateFate

def delegate? : DelegateFate → Option Delegate
  | bound d => some d
  | _ => none

def reason? : DelegateFate → Option String
  | skipped reason => some reason
  | _ => none

/-- The names that are used from then on. -/
def names : DelegateFate → List String
  | bound d => [d.accessor]
  | _ => []

end DelegateFate

/-- What becomes of a property after members that use the names in `taken`. -/
def Property.delegateFate (ctx : Context) (owner : Label) (taken : List String) (p : Property) :
    DelegateFate :=
  if !p.kind.isDelegate then .other
  else
    match p.delegate ctx owner with
    | .error reason => .skipped reason
    | .ok d =>
      if taken.contains d.accessor then .skipped ("accessor name " ++ d.accessor ++ " already used")
      else .bound d

/-- The fates of properties one after the other. -/
def delegateFates (ctx : Context) (owner : Label) (taken : List String) :
    List Property → List DelegateFate
  | [] => []
  | p :: rest =>
    let fate := p.delegateFate ctx owner taken
    fate :: delegateFates ctx owner (fate.names ++ taken) rest

@[simp] theorem length_delegateFates (props : List Property) (taken : List String) :
    (delegateFates ctx owner taken props).length = props.length := by
  induction props generalizing taken with
  | nil => rfl
  | cons p rest ih => simp [delegateFates, ih]

/-- One property of the pass. -/
theorem collectDelegates_cons (p : Property) (rest : List Property) (taken : List String) :
    collectDelegates ctx owner taken (p :: rest) =
      let fate := p.delegateFate ctx owner taken
      let (delegates, skips) := collectDelegates ctx owner (fate.names ++ taken) rest
      (fate.delegate?.toList ++ delegates,
        (fate.reason?.map (p.record owner)).toList ++ skips) := by
  rw [collectDelegates, Property.delegateFate]
  cases p.kind.isDelegate with
  | false => rfl
  | true =>
    cases p.delegate ctx owner with
    | error reason => rfl
    | ok d =>
      dsimp only
      cases taken.contains d.accessor <;> rfl

/-- The pass over the properties gives what their fates say. -/
theorem collectDelegates_eq (props : List Property) (taken : List String) :
    collectDelegates ctx owner taken props =
      let fates := delegateFates ctx owner taken props
      (fates.filterMap DelegateFate.delegate?,
        (props.zip fates).filterMap fun x => x.2.reason?.map (x.1.record owner)) := by
  induction props generalizing taken with
  | nil => rfl
  | cons p rest ih =>
    simp only [collectDelegates_cons, ih, delegateFates, List.zip_cons_cons, List.filterMap_cons]
    cases p.delegateFate ctx owner taken <;> rfl

/-- The fates that a property can have. -/
inductive DelegateFate.Of (p : Property) : DelegateFate → Prop where
  | bound {d : Delegate} : d.prop = p → Of p (.bound d)
  | skipped {reason : String} : Of p (.skipped reason)
  | other : p.kind.isDelegate = false → Of p .other

/-- The delegate of a property comes from that property. -/
theorem Property.prop_of_delegate {p : Property} {d : Delegate} (h : p.delegate ctx owner = .ok d) :
    d.prop = p := by
  unfold delegate at h
  split at h
  · cases h
  · cases h
  · next signature _ _ =>
    cases hparams : readParams ctx signature.params with
    | error e => rw [hparams] at h; cases h
    | ok params =>
      rw [hparams] at h
      obtain rfl := Except.ok.inj h
      rfl

theorem Property.delegateFate_of (p : Property) (taken : List String) :
    (p.delegateFate ctx owner taken).Of p := by
  unfold delegateFate
  split
  · next h => exact .other (Bool.not_eq_true' _ ▸ h)
  split
  · exact .skipped
  · next d hd =>
    split
    · exact .skipped
    · exact .bound (prop_of_delegate hd)

theorem of_mem_delegateFates {props : List Property} {taken : List String} {p : Property}
    {fate : DelegateFate} (h : (p, fate) ∈ props.zip (delegateFates ctx owner taken props)) :
    fate.Of p := by
  induction props generalizing taken with
  | nil => cases h
  | cons q rest ih =>
    simp only [delegateFates, List.zip_cons_cons, List.mem_cons, Prod.mk.injEq] at h
    rcases h with ⟨rfl, rfl⟩ | h
    · exact p.delegateFate_of taken
    · exact ih h

/-! ## Origins of accessors -/

/-- `a` is an accessor of a property that passed the filter. -/
structure Accessor.IsOf (ctx : Context) (inClass : Bool) (p : Property) (a : Accessor) : Prop where
  prop : a.prop = p
  mapping : a.mapping = p.mapping
  noDelegate : p.kind.isDelegate = false
  kept : propertySkip? ctx p = none
  supported : p.mapping.supported = true
  /-- Views are made in classes only, where they hold the elements of their container. -/
  view : a.isView = true → inClass = true ∧ a.parts.isSome = true
  parts : ∀ parts, a.parts = some parts → p.parts? (some ctx) = some parts

/-- What a property that gets an accessor has passed. -/
theorem Property.kept_of_access {p : Property} {name : String}
    (h : (p.access ctx inClass).getter? = some name) :
    p.kind.isDelegate = false ∧ propertySkip? ctx p = none ∧ p.mapping.supported = true := by
  revert h
  fun_cases Property.access ctx inClass p <;> simp_all [Access.getter?, Mapping.supported]

/-- Views are made in classes, of the elements of the property's container. -/
theorem Property.of_access_view {p : Property} {name : String} {parts : List Element}
    (h : p.access ctx inClass = .view name parts) :
    inClass = true ∧ p.parts? (some ctx) = some parts := by
  revert h
  fun_cases Property.access ctx inClass p <;> simp_all

theorem Property.noContainer_of_access_fields {p : Property} {getter setter : String}
    (h : p.access ctx inClass = .fields getter setter) :
    p.mapping.conversion.isContainer = false := by
  revert h
  fun_cases Property.access ctx inClass p <;> simp_all

/-- A property that gets an accessor has passed the filters, whatever names were used before it. -/
theorem Accessor.isOf_of_fate {p : Property} {a : Accessor} {seen : List String}
    (h : p.accessorFate ctx inClass functions seen = .bound a) : a.IsOf ctx inClass p := by
  have hof : (AccessorFate.bound a).Of ctx inClass seen p := h ▸ p.accessorFate_of seen
  obtain ⟨-, hgetter⟩ := hof
  obtain ⟨hdelegate, hkept, hsupported⟩ := Property.kept_of_access hgetter
  unfold Property.accessorFate at h
  split at h
  · cases h
  · cases h
  · next name parts haccess =>
    obtain ⟨hclass, hparts⟩ := Property.of_access_view haccess
    split at h
    · cases h
    · obtain rfl := AccessorFate.bound.inj h
      exact ⟨rfl, rfl, hdelegate, hkept, hsupported, fun _ => ⟨hclass, rfl⟩,
        fun _ hsome => Option.some.inj hsome ▸ hparts⟩
  · next getter setter haccess =>
    have hview := Property.noContainer_of_access_fields haccess
    split at h
    · cases h
    · obtain rfl := AccessorFate.bound.inj h
      exact ⟨rfl, rfl, hdelegate, hkept, hsupported,
        fun hv => absurd (hview.symm.trans hv) (by decide), nofun⟩

theorem exists_of_mem_accessorFates {props : List Property} {seen : List String}
    {fate : AccessorFate} (h : fate ∈ accessorFates ctx inClass functions seen props) :
    ∃ p ∈ props, ∃ used, p.accessorFate ctx inClass functions used = fate := by
  induction props generalizing seen with
  | nil => cases h
  | cons p rest ih =>
    rcases List.mem_cons.1 h with rfl | h
    · exact ⟨p, .head _, seen, rfl⟩
    · obtain ⟨q, hq, hfate⟩ := ih h
      exact ⟨q, .tail _ hq, hfate⟩

theorem exists_of_mem_accessors {props : List Property} {a : Accessor}
    (h : a ∈ (collectAccessors ctx owner inClass functions props).1) :
    ∃ p ∈ props, a.IsOf ctx inClass p := by
  rw [collectAccessors, collectFrom_eq] at h
  obtain ⟨fate, hfate, ha⟩ := List.mem_filterMap.1 h
  obtain ⟨p, hp, used, rfl⟩ := exists_of_mem_accessorFates hfate
  cases hbound : p.accessorFate ctx inClass functions used with
  | bound b =>
    rw [hbound] at ha
    obtain rfl := Option.some.inj ha
    exact ⟨p, hp, Accessor.isOf_of_fate hbound⟩
  | _ =>
    rw [hbound] at ha
    cases ha

/-! ## Origins of delegates -/

/-- `d` is the delegate of a property whose signature can be read. -/
structure Delegate.IsOf (ctx : Context) (p : Property) (d : Delegate) : Prop where
  prop : d.prop = p
  isDelegate : p.kind.isDelegate = true
  kept : delegateSkip? ctx p = none
  signature : p.signature = some d.signature
  params : readParams ctx d.signature.params = .ok d.params

theorem Delegate.isOf_of_delegate {p : Property} {d : Delegate}
    (hkind : p.kind.isDelegate = true) (h : p.delegate ctx owner = .ok d) : d.IsOf ctx p := by
  have hprop : d.prop = p := Property.prop_of_delegate h
  unfold Property.delegate at h
  split at h
  · cases h
  · cases h
  · next signature hkept hsignature =>
    cases hparams : readParams ctx signature.params with
    | error reason =>
      rw [hparams] at h
      cases h
    | ok params =>
      rw [hparams] at h
      obtain rfl := Except.ok.inj h
      exact ⟨rfl, hkind, hkept, hsignature, hparams⟩

theorem exists_of_mem_delegateFates {props : List Property} {taken : List String}
    {fate : DelegateFate} (h : fate ∈ delegateFates ctx owner taken props) :
    ∃ p ∈ props, ∃ used, p.delegateFate ctx owner used = fate := by
  induction props generalizing taken with
  | nil => cases h
  | cons p rest ih =>
    rcases List.mem_cons.1 h with rfl | h
    · exact ⟨p, .head _, taken, rfl⟩
    · obtain ⟨q, hq, hfate⟩ := ih h
      exact ⟨q, .tail _ hq, hfate⟩

theorem exists_of_mem_delegates {props : List Property} {taken : List String} {d : Delegate}
    (h : d ∈ (collectDelegates ctx owner taken props).1) : ∃ p ∈ props, d.IsOf ctx p := by
  rw [collectDelegates_eq] at h
  obtain ⟨fate, hfate, hd⟩ := List.mem_filterMap.1 h
  obtain ⟨p, hp, used, rfl⟩ := exists_of_mem_delegateFates hfate
  refine ⟨p, hp, ?_⟩
  unfold Property.delegateFate at hd
  split at hd
  · cases hd
  · next hkind =>
    split at hd
    · cases hd
    · next b hb =>
      split at hd
      · cases hd
      · obtain rfl := Option.some.inj hd
        exact Delegate.isOf_of_delegate (by simpa using hkind) hb

/-! ## Modules -/

theorem mem_bindMethods {taken : List String} {ms : List Method} {f : Method}
    (h : f ∈ (bindMethods owner taken ms).1) : f ∈ ms := by
  induction ms generalizing taken with
  | nil => cases h
  | cons m rest ih =>
    rw [bindMethods] at h
    split at h
    · exact .tail _ (ih h)
    · exact (List.mem_cons.1 h).elim (fun he => he ▸ .head _) fun h => .tail _ (ih h)

namespace ClassModule

variable {c : ClassInfo} {entries : List Entry}

theorem accessor_of {a : Accessor} (h : a ∈ (of ctx c entries).accessors) :
    ∃ p ∈ c.props, a.IsOf ctx true p := exists_of_mem_accessors h

theorem delegate_of {d : Delegate} (h : d ∈ (of ctx c entries).delegates) :
    ∃ p ∈ c.props, d.IsOf ctx p := exists_of_mem_delegates h

theorem method_of {f : Method} (h : f ∈ (of ctx c entries).methods) :
    ∃ e ∈ entries, f.plan = CallPlan.of ctx e := by
  obtain ⟨e, he, rfl⟩ := List.mem_map.1 (mem_bindMethods h)
  exact ⟨e, he, rfl⟩

end ClassModule

theorem StructModule.accessor_of {s : StructInfo} {a : Accessor}
    (h : a ∈ (StructModule.of ctx s).accessors) : ∃ p ∈ s.props, a.IsOf ctx false p := by
  by_cases hstatic : s.hasStaticStruct = true
  · exact exists_of_mem_accessors (by simpa only [StructModule.of, if_pos hstatic] using h)
  · simp [StructModule.of, hstatic] at h

end Bindery
