import Headroom.Proofs.Manifest.Conversion
import Headroom.Proofs.Resource.Sum
/-!
# What a pod asks for, resource by resource

The requests of a pod are put together from lists: those of the containers are added up, those of
the init containers raise the sum, and the overhead is added to it. Here the same is said for one
resource at a time (`Manifest.PodSpec.asked`), from the amounts that the parts of the pod declare
for it. Only declared amounts count: a part that does not name the resource does not count as a
zero, which matters as soon as amounts are negative.
-/

namespace Headroom

/-! ## Several amounts -/

namespace Amount

instance : Max Amount := ⟨max⟩

variable {amounts : List Amount}

theorem val_max (a b : Amount) : (a.max b).val = Max.max a.val b.val := by
  unfold max
  split <;> omega

theorem max_self (a : Amount) : a.max a = a := by
  ext
  rw [val_max]
  omega

theorem max_assoc (a b c : Amount) : (a.max b).max c = a.max (b.max c) := by
  ext
  simp only [val_max]
  omega

instance : Std.Associative (α := Amount) Max.max := ⟨max_assoc⟩

/-- The sum of some amounts in their order, stopped at the bounds after each of them, if there are
any. -/
def total? (amounts : List Amount) : Option Amount :=
  if amounts = [] then none else some (amounts.foldl add zero)

theorem foldl_add_some (amounts : List Amount) (start : Amount) :
    amounts.foldl (fun held value => some ((held.getD zero).add value)) (some start) =
      some (amounts.foldl add start) := by
  induction amounts generalizing start with
  | nil => rfl
  | cons head rest ih => exact ih (start.add head)

/-- Amounts that are added to no amount make up their sum. -/
theorem foldl_add_none (amounts : List Amount) :
    amounts.foldl (fun held value => some ((held.getD zero).add value)) none = total? amounts := by
  cases amounts with
  | nil => rfl
  | cons head rest => exact foldl_add_some rest (zero.add head)

/-- What is raised to several amounts one by one is raised to the largest of them. -/
theorem foldl_max (amounts : List Amount) (start : Option Amount) :
    amounts.foldl (fun held value => some ((held.getD value).max value)) start =
      amounts.max?.elim start fun peak => some ((start.getD peak).max peak) := by
  induction amounts generalizing start with
  | nil => rfl
  | cons head rest ih =>
      rw [List.foldl_cons, ih, List.max?_cons]
      cases rest.max? with
      | none => rfl
      | some peak =>
          show some (((start.getD head).max head).max peak) =
            some ((start.getD (head.max peak)).max (head.max peak))
          cases start with
          | none => rw [Option.getD_none, Option.getD_none, max_self, max_self]
          | some value => rw [Option.getD_some, Option.getD_some, max_assoc]

end Amount

/-! ## Quantities -/

namespace ResourceName

theorem ofString?_text (name : ResourceName) : ofString? name.text = .ok name :=
  dif_pos name.valid

theorem ofString?_eq_ok_iff {text : String} {name : ResourceName} :
    ofString? text = .ok name ↔ name.text = text := by
  constructor
  · intro named
    unfold ofString? at named
    split at named
    · rw [← Except.ok.inj named]
    · contradiction
  · intro same
    rw [← same, ofString?_text]

end ResourceName

namespace Manifest

namespace Quantities

variable {quantities : Quantities} {list : ResourceList} {resource : ResourceName}
  {amount : Amount}

/-- Every name is that of a resource, and every quantity can be read and is an amount of it. -/
def Readable (quantities : Quantities) : Prop :=
  ∀ entry ∈ quantities.entries, ∃ name quantity amount,
    ResourceName.ofString? entry.1 = .ok name ∧ Quantity.parse entry.2 = .ok quantity ∧
      name.canonicalAmount quantity = .ok amount

/-- The amount of a resource that is declared, if there is one that can be read. -/
def declared? (quantities : Quantities) (resource : ResourceName) : Option Amount := do
  let text ← quantities.get? resource.text
  let quantity ← (Quantity.parse text).toOption
  (resource.canonicalAmount quantity).toOption

theorem declared?_eq_some_iff : quantities.declared? resource = some amount ↔
    ∃ text, quantities.get? resource.text = some text ∧ ∃ quantity,
      Quantity.parse text = .ok quantity ∧ resource.canonicalAmount quantity = .ok amount := by
  simp only [declared?, Option.bind_eq_bind, Option.bind_eq_some_iff, toOption_eq_some_iff]

/-- Reads one entry. -/
def readEntry (entry : String × String) : Except ResourceError (ResourceName × Amount) := do
  let name ← ResourceName.ofString? entry.1
  let quantity ← Quantity.parse entry.2
  return (name, ← name.canonicalAmount quantity)

theorem readEntry_eq_ok_iff {entry : String × String} :
    readEntry entry = .ok (resource, amount) ↔ resource.text = entry.1 ∧ ∃ quantity,
      Quantity.parse entry.2 = .ok quantity ∧ resource.canonicalAmount quantity = .ok amount := by
  simp only [readEntry, bind_eq_ok_iff, ResourceName.ofString?_eq_ok_iff]
  constructor
  · intro ⟨name, named, quantity, parsed, value, converted, same⟩
    cases same
    exact ⟨named, quantity, parsed, converted⟩
  · intro ⟨named, quantity, parsed, converted⟩
    exact ⟨resource, named, quantity, parsed, amount, converted, rfl⟩

/-- The entries are read one by one and then put into a list. -/
theorem amounts_eq (quantities : Quantities) :
    quantities.amounts = (quantities.entries.mapM readEntry).map Dict.ofList := by
  unfold Dict.ofList
  rw [← foldlM_convert_eq]
  refine congrArg (fun step => quantities.entries.foldlM step ∅) (funext₂ fun list entry => ?_)
  rw [readEntry]
  cases ResourceName.ofString? entry.1 with
  | error fault => rfl
  | ok name =>
      cases Quantity.parse entry.2 with
      | error fault => rfl
      | ok quantity =>
          simp only [ok_bind, ResourceList.insertQuantity]
          cases name.canonicalAmount quantity <;> rfl

/-- The entries that are read stand in the order of the names. -/
theorem pairwise_of_mapM_readEntry {entries : List (String × String)}
    {values : List (ResourceName × Amount)}
    (ordered : entries.Pairwise fun left right => TextKey.compare left.1 right.1 = .lt)
    (read : entries.mapM readEntry = .ok values) :
    values.Pairwise fun left right => TextKey.compare left.1 right.1 = .lt := by
  have names : values.map (·.1.text) = entries.map (·.1) := by
    rw [mapM_eq_ok_iff] at read
    clear ordered
    induction read with
    | nil => rfl
    | cons first _ ih => rw [List.map_cons, List.map_cons, ih, (readEntry_eq_ok_iff.mp first).1]
  have increasing : (entries.map (·.1)).Pairwise fun left right =>
      TextKey.compare left right = .lt := List.pairwise_map.mpr ordered
  rw [← names, List.pairwise_map] at increasing
  exact increasing

/-- The amounts of some quantities are those that are declared. -/
theorem get?_amounts (converted : quantities.amounts = .ok list) (resource : ResourceName) :
    list.get? resource = quantities.declared? resource := by
  rw [amounts_eq] at converted
  cases read : quantities.entries.mapM readEntry with
  | error fault =>
      rw [read] at converted
      contradiction
  | ok values =>
      rw [read] at converted
      cases converted
      have ordered := pairwise_of_mapM_readEntry quantities.ordered read
      refine Option.ext fun amount => ?_
      rw [Dict.get?_ofList_eq_some_iff ordered, declared?_eq_some_iff,
        eq_filterMap_of_mapM read, List.mem_filterMap]
      simp only [toOption_eq_some_iff, ← Dict.mem_entries_iff]
      constructor
      · intro ⟨entry, listed, found⟩
        obtain ⟨named, readable⟩ := readEntry_eq_ok_iff.mp found
        exact ⟨entry.2, named ▸ listed, readable⟩
      · intro ⟨text, listed, readable⟩
        exact ⟨(resource.text, text), listed, readEntry_eq_ok_iff.mpr ⟨rfl, readable⟩⟩

/-- A resource that is named in readable quantities is declared. -/
theorem Readable.isSome_declared? (readable : quantities.Readable) (resource : ResourceName) :
    (quantities.declared? resource).isSome = quantities.contains resource.text := by
  rw [Bool.eq_iff_iff, Dict.contains, Option.isSome_iff_exists, Option.isSome_iff_exists]
  constructor
  · intro ⟨amount, found⟩
    obtain ⟨text, named, _⟩ := declared?_eq_some_iff.mp found
    exact ⟨text, named⟩
  · intro ⟨text, named⟩
    obtain ⟨name, quantity, amount, valid, parsed, converted⟩ :=
      readable (resource.text, text) (Dict.mem_entries_iff.mpr named)
    rw [ResourceName.ofString?_text, Except.ok.injEq] at valid
    exact ⟨amount, declared?_eq_some_iff.mpr ⟨text, named, quantity, parsed, valid ▸ converted⟩⟩

theorem filterMap_get?_of_mapM {parts : List Quantities} {lists : List ResourceList}
    (converted : parts.mapM amounts = .ok lists) (resource : ResourceName) :
    lists.filterMap (·.get? resource) = parts.filterMap (·.declared? resource) := by
  rw [mapM_eq_ok_iff] at converted
  induction converted with
  | nil => rfl
  | cons first _ ih => rw [List.filterMap_cons, List.filterMap_cons, get?_amounts first, ih]

end Quantities

/-! ## Pods -/

namespace PodSpec

variable {spec : PodSpec} {list : ResourceList} {resource : ResourceName}

/-- All quantities that a pod asks for. -/
def parts (spec : PodSpec) : List Quantities :=
  spec.containers ++ spec.initContainers ++ [spec.overhead]

/-- All quantities can be read. -/
def Readable (spec : PodSpec) : Prop := ∀ quantities ∈ spec.parts, quantities.Readable

/-- The sum over the containers that declare a resource, in their order. -/
def sum? (spec : PodSpec) (resource : ResourceName) : Option Amount :=
  Amount.total? (spec.containers.filterMap (·.declared? resource))

/-- The maximum over the init containers that declare a resource. -/
def peak? (spec : PodSpec) (resource : ResourceName) : Option Amount :=
  (spec.initContainers.filterMap (·.declared? resource)).max?

/-- What is asked for of a resource before the overhead is added. -/
def base (spec : PodSpec) (resource : ResourceName) : Amount :=
  match spec.sum? resource, spec.peak? resource with
  | some sum, some peak => sum.max peak
  | some sum, none => sum
  | none, some peak => peak
  | none, none => .zero

/-- What is asked for of a resource. -/
def asked (spec : PodSpec) (resource : ResourceName) : Amount :=
  match spec.overhead.declared? resource with
  | some extra => (spec.base resource).add extra
  | none => spec.base resource

/-- Every part is read, and the lists are put together. -/
theorem effectiveRequests_eq_ok_iff :
    spec.effectiveRequests = .ok list ↔ ∃ summands peaks extra,
      spec.containers.mapM Quantities.amounts = .ok summands ∧
        spec.initContainers.mapM Quantities.amounts = .ok peaks ∧
        spec.overhead.amounts = .ok extra ∧
        (peaks.foldl ResourceList.maxWith (summands.foldl ResourceList.add ∅)).add extra =
          list := by
  simp only [effectiveRequests, foldlM_convert_eq, bind_eq_ok_iff, map_eq_ok_iff]
  constructor
  · intro ⟨_, ⟨summands, containers, rfl⟩, _, ⟨peaks, inits, rfl⟩, extra, overhead, same⟩
    cases same
    exact ⟨summands, peaks, extra, containers, inits, overhead, rfl⟩
  · intro ⟨summands, peaks, extra, containers, inits, overhead, same⟩
    cases same
    exact ⟨_, ⟨summands, containers, rfl⟩, _, ⟨peaks, inits, rfl⟩, extra, overhead, rfl⟩

theorem exists_effectiveRequests_eq_ok_iff :
    (∃ list, spec.effectiveRequests = .ok list) ↔ spec.Readable := by
  have each (parts : List Quantities) : (∃ lists, parts.mapM Quantities.amounts = .ok lists) ↔
      ∀ quantities ∈ parts, quantities.Readable := by
    rw [exists_mapM_eq_ok_iff]
    exact forall₂_congr fun _ _ => Quantities.exists_amounts_eq_ok_iff
  have last : (∃ extra, spec.overhead.amounts = .ok extra) ↔ spec.overhead.Readable :=
    Quantities.exists_amounts_eq_ok_iff
  simp only [effectiveRequests_eq_ok_iff, Readable, parts, List.forall_mem_append,
    List.forall_mem_singleton, ← each, ← last]
  constructor
  · intro ⟨_, summands, peaks, extra, containers, inits, overhead, _⟩
    exact ⟨⟨⟨summands, containers⟩, peaks, inits⟩, extra, overhead⟩
  · intro ⟨⟨⟨summands, containers⟩, peaks, inits⟩, extra, overhead⟩
    exact ⟨_, summands, peaks, extra, containers, inits, overhead, rfl⟩

/-- The containers contribute the sum of what they declare. -/
theorem get?_foldl_add {summands : List ResourceList}
    (read : spec.containers.mapM Quantities.amounts = .ok summands) (resource : ResourceName) :
    (summands.foldl ResourceList.add ∅).get? resource = spec.sum? resource := by
  rw [ResourceList.get?_foldl_merge (fun held value => (held.getD .zero).add value)
    (fun list other => ResourceList.get?_add list other resource),
    Quantities.filterMap_get?_of_mapM read]
  exact Amount.foldl_add_none _

/-- The init containers raise the sum to the maximum of what they declare, or contribute it where no
container declares anything. -/
theorem get?_foldl_maxWith {list : ResourceList} {peaks : List ResourceList}
    (read : spec.initContainers.mapM Quantities.amounts = .ok peaks) (resource : ResourceName) :
    (peaks.foldl ResourceList.maxWith list).get? resource =
      (spec.peak? resource).elim (list.get? resource) fun peak =>
        some (((list.get? resource).getD peak).max peak) := by
  rw [ResourceList.get?_foldl_merge (fun held value => (held.getD value).max value)
    (fun list other => ResourceList.get?_maxWith list other resource),
    Quantities.filterMap_get?_of_mapM read]
  exact Amount.foldl_max _ _

theorem elim_peak?_eq (spec : PodSpec) (resource : ResourceName) :
    ((spec.peak? resource).elim (spec.sum? resource) fun peak =>
        some (((spec.sum? resource).getD peak).max peak)) =
      if spec.sum? resource = none ∧ spec.peak? resource = none then none
      else some (spec.base resource) := by
  unfold base
  cases spec.peak? resource with
  | none => cases spec.sum? resource <;> rfl
  | some peak =>
      cases spec.sum? resource with
      | some sum => rfl
      | none => exact congrArg some peak.max_self

/-- A resource that is named anywhere counts for the sum, for the maximum or for the overhead. -/
theorem Readable.named_iff (readable : spec.Readable) (resource : ResourceName) :
    (∃ quantities ∈ spec.parts, quantities.contains resource.text = true) ↔
      ¬ ((spec.sum? resource = none ∧ spec.peak? resource = none) ∧
        spec.overhead.declared? resource = none) := by
  have each : ∀ quantities ∈ spec.parts, quantities.declared? resource = none ↔
      ¬ quantities.contains resource.text = true := by
    intro quantities member
    rw [← (readable quantities member).isSome_declared? resource]
    simp
  have named : (∃ quantities ∈ spec.parts, quantities.contains resource.text = true) ↔
      ¬ ∀ quantities ∈ spec.parts, quantities.declared? resource = none := by
    rw [forall₂_congr each]
    simp only [not_forall, not_not, exists_prop]
  rw [named, parts]
  simp only [List.forall_mem_append, List.forall_mem_singleton, sum?, peak?, Amount.total?,
    List.max?_eq_none_iff, List.filterMap_eq_nil_iff, ite_eq_left_iff, reduceCtorEq, imp_false,
    not_not]

/-- **What a pod asks for.** The requests of a pod can be found out exactly if every part of it can
be read. They then have an entry for each resource that some part names, and for no other: the sum
over the containers that declare it or the maximum over the init containers that do, whichever is
larger if there are both, with the overhead added to it. -/
theorem get?_effectiveRequests (spec : PodSpec) :
    ((∃ list, spec.effectiveRequests = .ok list) ↔ spec.Readable) ∧
    ∀ list, spec.effectiveRequests = .ok list → ∀ resource, list.get? resource =
      if ∃ quantities ∈ spec.parts, quantities.contains resource.text = true then
        some (spec.asked resource)
      else none := by
  refine ⟨exists_effectiveRequests_eq_ok_iff, ?_⟩
  intro list computed resource
  have readable := exists_effectiveRequests_eq_ok_iff.mp ⟨list, computed⟩
  obtain ⟨summands, peaks, extra, containers, inits, overhead, rfl⟩ :=
    effectiveRequests_eq_ok_iff.mp computed
  rw [ResourceList.get?_add, ResourceList.amount, Quantities.get?_amounts overhead,
    get?_foldl_maxWith inits, get?_foldl_add containers, elim_peak?_eq,
    if_congr (readable.named_iff resource) rfl rfl, asked]
  by_cases undeclared : spec.sum? resource = none ∧ spec.peak? resource = none
  · have zero : spec.base resource = .zero := by
      rw [base, undeclared.1, undeclared.2]
    rw [if_pos undeclared, zero]
    cases spec.overhead.declared? resource <;> simp [undeclared]
  · rw [if_neg undeclared]
    cases spec.overhead.declared? resource <;> simp [undeclared]

end PodSpec

end Manifest

namespace Sample

/-- A pod with quantities of both signs. -/
def mixedSpec : Manifest.PodSpec where
  containers :=
    [(Dict.empty.insert "cpu" "-500m").insert "memory" "1Gi", Dict.empty.insert "cpu" "250m"]
  initContainers := [Dict.empty.insert "cpu" "-1", Dict.empty.insert "example.com/gpu" "-2"]
  overhead := (Dict.empty.insert "memory" "-1Mi").insert "pods" "1.5"

/-- An accelerator. -/
def gpu : ResourceName := { text := "example.com/gpu", valid := by decide }

/-- The containers together ask for more of the processor than any init container, though below
zero; only an init container asks for an accelerator, and only the overhead for pods. -/
theorem get?_effectiveRequests_mixedSpec : ∃ list, mixedSpec.effectiveRequests = .ok list ∧
    list.get? .cpu = some { val := -250 } ∧ list.get? gpu = some { val := -2 } ∧
      list.get? .memory = some { val := 1072693248 } ∧ list.get? .pods = some { val := 2 } := by
  obtain ⟨list, computed⟩ : ∃ list, mixedSpec.effectiveRequests = .ok list := ⟨_, rfl⟩
  have asked := (Manifest.PodSpec.get?_effectiveRequests mixedSpec).2 list computed
  exact ⟨list, computed, (asked .cpu).trans (by rfl), (asked gpu).trans (by rfl),
    (asked .memory).trans (by decide), (asked .pods).trans (by rfl)⟩

end Sample

end Headroom
