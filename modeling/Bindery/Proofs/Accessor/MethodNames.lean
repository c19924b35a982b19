import Bindery.Proofs.Accessor.Members

/-!
# Names of methods

The methods of a generated class come from three passes, and each of them starts with the names
that the ones before it used. So all names are distinct. A setter that gives way to a function or to
another accessor leaves a method with its name.

* `FreshNames`: distinct names that were not used before.
* `freshNames_collectFrom`, `freshNames_collectDelegates`, `freshNames_bindMethods`: the passes.
* `Accessor.Takes`, `takes_of_mem_collectFrom`: the names of one accessor.
* `ClassModule.nodup_methodNames`, `methodName_mem`, `setter_mem`: the names in a class.
-/

namespace Bindery

variable {ctx : Context} {owner : Label} {inClass : Bool} {functions : List String}

/-! ## Names that were not used before -/

/-- Distinct names, none of them among those that were used before. -/
structure FreshNames (used names : List String) : Prop where
  nodup : names.Nodup
  unused : ∀ name ∈ names, name ∉ used

namespace FreshNames

variable {used a b : List String}

theorem nil : FreshNames used [] := ⟨List.nodup_nil, nofun⟩

theorem singleton {name : String} (h : name ∉ used) : FreshNames used [name] :=
  ⟨List.nodup_singleton name, fun _ hname => List.mem_singleton.1 hname ▸ h⟩

/-- More names behind names that count as used by then. -/
theorem append (ha : FreshNames used a) (hb : FreshNames (a ++ used) b) :
    FreshNames used (a ++ b) where
  nodup := List.nodup_append'.2 ⟨ha.nodup, hb.nodup, fun name hna hnb =>
    hb.unused name hnb (List.mem_append_left _ hna)⟩
  unused name hname := by
    rcases List.mem_append.1 hname with h | h
    · exact ha.unused name h
    · exact fun hused => hb.unused name h (List.mem_append_right _ hused)

theorem perm (h : FreshNames used a) (hab : a.Perm b) : FreshNames used b :=
  ⟨hab.nodup_iff.1 h.nodup, fun name hname => h.unused name (hab.mem_iff.2 hname)⟩

theorem of_subset {used' : List String} (h : FreshNames used a) (hsub : used' ⊆ used) :
    FreshNames used' a :=
  ⟨h.nodup, fun name hname hused => h.unused name hname (hsub hused)⟩

end FreshNames

/-! ## Accessors -/

theorem AccessorFate.names_perm (fate : AccessorFate) :
    fate.names.Perm (fate.accessor?.toList.flatMap (·.methods)) := by
  cases fate with
  | bound a => simp [names, accessor?]
  | _ => exact .nil

theorem AccessorFate.eq_bound {fate : AccessorFate} {a : Accessor}
    (h : a ∈ fate.accessor?.toList) : fate = bound a := by
  cases fate with
  | bound b => rw [List.mem_singleton.1 h]
  | _ => cases h

/-- The names of an accessor are not used by those before it. -/
theorem Property.freshNames_accessorFate (p : Property) (seen : List String) :
    FreshNames seen (p.accessorFate ctx inClass functions seen).names := by
  unfold accessorFate
  split
  · exact .nil
  · exact .nil
  · split
    · exact .nil
    · next hseen => exact .singleton (by simpa using hseen)
  · next getter setter _ =>
    split
    · exact .nil
    · next hseen =>
      have hgetter : FreshNames seen [getter] := .singleton (by simpa using hseen)
      dsimp only
      cases htaken : functions.contains setter || (getter :: seen).contains setter with
      | true => exact hgetter
      | false =>
        -- Getter and setter are new, and are put down in the other order.
        have hsetter : setter ∉ [getter] ++ seen := by simp_all
        exact (hgetter.append (.singleton hsetter)).perm (List.Perm.swap ..)

theorem accessors_cons (p : Property) (rest : List Property) (seen : List String) :
    (collectFrom ctx owner inClass functions seen (p :: rest)).1 =
      let fate := p.accessorFate ctx inClass functions seen
      fate.accessor?.toList ++
        (collectFrom ctx owner inClass functions (fate.names ++ seen) rest).1 :=
  congrArg (·.1) (collectFrom_cons p rest seen)

/-- The accessors of a pass have names of their own. -/
theorem freshNames_collectFrom (props : List Property) (seen : List String) :
    FreshNames seen
      ((collectFrom ctx owner inClass functions seen props).1.flatMap (·.methods)) := by
  induction props generalizing seen with
  | nil => exact .nil
  | cons p rest ih =>
    let fate := p.accessorFate ctx inClass functions seen
    have hnames := fate.names_perm
    have hfirst : FreshNames seen fate.names := p.freshNames_accessorFate seen
    rw [accessors_cons, List.flatMap_append]
    refine (hfirst.perm hnames).append ((ih (fate.names ++ seen)).of_subset ?_)
    exact List.append_subset.2 ⟨fun name hname =>
      List.mem_append_left _ (hnames.mem_iff.2 hname), List.subset_append_right _ _⟩

/-- The names that an accessor takes: the one of a view, or a getter with its setter, unless a
function or something in `used` has the setter's name. -/
inductive Accessor.Takes (ctx : Context) (inClass : Bool) (functions used : List String)
    (a : Accessor) : Prop where
  | view {parts : List Element} : a.prop.access ctx inClass = .view a.getter parts →
      a.setter = none → Takes ctx inClass functions used a
  | both {setter : String} : a.prop.access ctx inClass = .fields a.getter setter →
      a.setter = some setter → setter ∉ functions → Takes ctx inClass functions used a
  | yields {setter : String} : a.prop.access ctx inClass = .fields a.getter setter →
      a.setter = none → setter ∈ functions ∨ setter ∈ used → Takes ctx inClass functions used a

theorem Accessor.Takes.mono {used used' : List String} {a : Accessor}
    (h : a.Takes ctx inClass functions used) (hsub : used ⊆ used') :
    a.Takes ctx inClass functions used' := by
  cases h with
  | view haccess hnone => exact .view haccess hnone
  | both haccess hsome hfree => exact .both haccess hsome hfree
  | yields haccess hnone hname => exact .yields haccess hnone (hname.imp_right fun h => hsub h)

theorem Property.takes_of_fate {p : Property} {a : Accessor} {seen : List String}
    (h : p.accessorFate ctx inClass functions seen = .bound a) :
    a.Takes ctx inClass functions (a.methods ++ seen) := by
  unfold accessorFate at h
  split at h
  · cases h
  · cases h
  · next haccess =>
    split at h <;> cases h
    exact .view haccess rfl
  · next getter setter haccess =>
    split at h
    · cases h
    · obtain rfl := AccessorFate.bound.inj h
      cases htaken : functions.contains setter || (getter :: seen).contains setter with
      | true => exact .yields haccess rfl (by simpa [Accessor.methods] using htaken)
      | false => exact .both haccess rfl (by simp_all)

/-- The names that an accessor of a pass takes. -/
theorem takes_of_mem_collectFrom {props : List Property} {seen : List String} {a : Accessor}
    (h : a ∈ (collectFrom ctx owner inClass functions seen props).1) :
    a.Takes ctx inClass functions
      ((collectFrom ctx owner inClass functions seen props).1.flatMap (·.methods) ++ seen) := by
  induction props generalizing seen with
  | nil => cases h
  | cons p rest ih =>
    rw [accessors_cons] at h ⊢
    rw [List.flatMap_append]
    rcases List.mem_append.1 h with h | h
    · have hfate := AccessorFate.eq_bound h
      refine (Property.takes_of_fate hfate).mono
        (List.append_subset.2 ⟨?_, List.subset_append_right ..⟩)
      rw [hfate]
      simp [AccessorFate.accessor?]
    · refine (ih h).mono fun name hname => ?_
      simp only [List.mem_append, (AccessorFate.names_perm _).mem_iff] at hname ⊢
      tauto

/-! ## Delegates and functions -/

/-- A delegate uses the name of its accessor. -/
theorem DelegateFate.names_eq (fate : DelegateFate) :
    fate.names = fate.delegate?.toList.map (·.accessor) := by
  cases fate <;> rfl

theorem Property.freshNames_delegateFate (p : Property) (taken : List String) :
    FreshNames taken (p.delegateFate ctx owner taken).names := by
  unfold delegateFate
  split
  · exact .nil
  · split
    · exact .nil
    · split
      · exact .nil
      · next htaken => exact .singleton (by simpa using htaken)

/-- The delegates of a pass have names of their own. -/
theorem freshNames_collectDelegates (props : List Property) (taken : List String) :
    FreshNames taken ((collectDelegates ctx owner taken props).1.map (·.accessor)) := by
  induction props generalizing taken with
  | nil => exact .nil
  | cons p rest ih =>
    rw [collectDelegates_cons]
    dsimp only
    rw [List.map_append, ← DelegateFate.names_eq]
    exact (p.freshNames_delegateFate taken).append (ih _)

theorem Property.accessor_of_delegate {p : Property} {d : Delegate}
    (h : p.delegate ctx owner = .ok d) :
    d.accessor = Naming.escapeReserved d.prop.name.accessorName := by
  rw [Property.prop_of_delegate h]
  unfold delegate at h
  split at h
  · cases h
  · cases h
  · next signature _ _ =>
    cases hparams : readParams ctx signature.params with
    | error e => rw [hparams] at h; cases h
    | ok params =>
      rw [hparams] at h
      obtain rfl := Except.ok.inj h
      rfl

/-- Where the name of a delegate comes from. -/
theorem accessor_of_mem_collectDelegates {props : List Property} {taken : List String}
    {d : Delegate} (h : d ∈ (collectDelegates ctx owner taken props).1) :
    d.accessor = Naming.escapeReserved d.prop.name.accessorName := by
  rw [collectDelegates_eq] at h
  obtain ⟨fate, hfate, hd⟩ := List.mem_filterMap.1 h
  obtain ⟨p, -, used, rfl⟩ := exists_of_mem_delegateFates hfate
  unfold Property.delegateFate at hd
  split at hd
  · cases hd
  · split at hd
    · cases hd
    · next hdelegate =>
      split at hd <;> cases hd
      exact Property.accessor_of_delegate hdelegate

/-- The functions that are bound have names of their own. -/
theorem freshNames_bindMethods (ms : List Method) (taken : List String) :
    FreshNames taken ((bindMethods owner taken ms).1.map (·.name)) := by
  induction ms generalizing taken with
  | nil => exact .nil
  | cons m rest ih =>
    rw [bindMethods]
    split
    · exact ih taken
    · next htaken =>
      have hfirst : FreshNames taken [m.name] := .singleton (by simpa using htaken)
      exact hfirst.append (ih (m.name :: taken))

/-- The name of a function that is left out is that of something else. -/
theorem name_mem_of_bindMethods {ms : List Method} {taken : List String} {m : Method}
    (h : m ∈ ms) :
    m.name ∈ taken ++ (bindMethods owner taken ms).1.map (·.name) := by
  induction ms generalizing taken with
  | nil => cases h
  | cons first rest ih =>
    rw [bindMethods]
    split
    · next htaken =>
      rcases List.mem_cons.1 h with rfl | h
      · exact List.mem_append_left _ (List.contains_iff_mem.1 htaken)
      · exact ih h
    · rcases List.mem_cons.1 h with rfl | h
      · exact List.mem_append_right _ (.head _)
      · have hrest : m.name ∈ (first.name :: taken) ++ _ := ih h
        simpa [or_left_comm] using hrest

/-! ## Classes -/

namespace ClassModule

variable {c : ClassInfo} {entries : List Entry}

/-- The methods of a class have names of their own. -/
theorem nodup_methodNames (ctx : Context) (c : ClassInfo) (entries : List Entry) :
    (of ctx c entries).methodNames.Nodup := by
  let file := of ctx c entries
  have haccessors : FreshNames [] (file.accessors.flatMap (·.methods)) :=
    freshNames_collectFrom c.props []
  have hdelegates : FreshNames (file.accessors.flatMap (·.methods) ++ [])
      (file.delegates.map (·.accessor)) := by
    rw [List.append_nil]
    exact freshNames_collectDelegates c.props _
  have hmethods : FreshNames
      ((file.accessors.flatMap (·.methods) ++ file.delegates.map (·.accessor)) ++ [])
      (file.methods.map (·.name)) := by
    rw [List.append_nil]
    exact freshNames_bindMethods _ _
  exact ((haccessors.append hdelegates).append hmethods).nodup

/-- Every function has a method with its name, its own or another one. -/
theorem methodName_mem {e : Entry} (he : e ∈ entries) :
    e.methodName ∈ (of ctx c entries).methodNames := by
  have hcandidate : (⟨e.methodName, CallPlan.of ctx e⟩ : Method) ∈
      entries.map fun e => ⟨e.methodName, CallPlan.of ctx e⟩ := List.mem_map_of_mem he
  exact name_mem_of_bindMethods hcandidate

/-- The names that an accessor of a class takes. -/
theorem takes_of_mem {a : Accessor} (ha : a ∈ (of ctx c entries).accessors) :
    a.Takes ctx true (entries.map (·.methodName))
      ((of ctx c entries).accessors.flatMap (·.methods)) := by
  have hnames : (entries.map fun e => (⟨e.methodName, CallPlan.of ctx e⟩ : Method)).map (·.name) =
      entries.map (·.methodName) := by
    rw [List.map_map]
    rfl
  have htakes : a.Takes ctx true _ ((of ctx c entries).accessors.flatMap (·.methods) ++ []) :=
    takes_of_mem_collectFrom ha
  rwa [List.append_nil, hnames] at htakes

/-- Views have no setter. -/
theorem setter_of_isView {a : Accessor} (ha : a ∈ (of ctx c entries).accessors)
    (hview : a.isView = true) : a.setter = none := by
  obtain ⟨p, -, hof⟩ := accessor_of ha
  have hcontainer : a.prop.mapping.conversion.isContainer = true := by
    rwa [hof.prop, ← hof.mapping]
  cases takes_of_mem ha with
  | view _ hnone | yields _ hnone _ => exact hnone
  | both haccess =>
    exact absurd ((Property.noContainer_of_access_fields haccess).symm.trans hcontainer)
      Bool.false_ne_true

/-- Every setter has a method with its name, its own or another one; it is not its own if a function
has that name. -/
theorem setter_mem {a : Accessor} {getter setter : String}
    (ha : a ∈ (of ctx c entries).accessors)
    (haccess : a.prop.access ctx true = .fields getter setter) :
    a.getter = getter ∧ (a.setter = some setter ∨ a.setter = none) ∧
      (∀ e ∈ entries, e.methodName = setter → a.setter = none) ∧
      setter ∈ (of ctx c entries).methodNames := by
  have haccessor {name : String} (h : name ∈ (of ctx c entries).accessors.flatMap (·.methods)) :
      name ∈ (of ctx c entries).methodNames :=
    List.mem_append_left _ (List.mem_append_left _ h)
  cases takes_of_mem ha with
  | view hview => cases hview.symm.trans haccess
  | both hfields hsome hfree =>
    cases hfields.symm.trans haccess
    refine ⟨rfl, .inl hsome, fun e he hname => absurd ?_ hfree, haccessor ?_⟩
    · exact hname ▸ List.mem_map_of_mem he
    · exact List.mem_flatMap.2 ⟨a, ha, by simp [Accessor.methods, hsome]⟩
  | yields hfields hnone hname =>
    cases hfields.symm.trans haccess
    refine ⟨rfl, .inr hnone, fun _ _ _ => hnone, ?_⟩
    rcases hname with hname | hname
    · obtain ⟨e, he, rfl⟩ := List.mem_map.1 hname
      exact methodName_mem he
    · exact haccessor hname

/-- The first property of a class is bound if it can have a getter. -/
theorem exists_accessor {p : Property} {rest : List Property} {getter setter : String}
    (hprops : c.props = p :: rest) (haccess : p.access ctx true = .fields getter setter) :
    ∃ a ∈ (of ctx c entries).accessors, a.prop = p := by
  have hfirst (functions : List String) :
      ∃ a ∈ (p.accessorFate ctx true functions []).accessor?.toList, a.prop = p := by
    rw [Property.accessorFate, haccess]
    exact ⟨_, .head _, rfl⟩
  obtain ⟨a, ha, hprop⟩ := hfirst
    ((entries.map fun e => (⟨e.methodName, CallPlan.of ctx e⟩ : Method)).map (·.name))
  refine ⟨a, ?_, hprop⟩
  simp only [of, collectAccessors, hprops, accessors_cons]
  exact List.mem_append_left _ ha

end ClassModule

end Bindery
