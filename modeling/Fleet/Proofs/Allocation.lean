import Fleet.Context
import Mathlib.Data.List.Induction
import Mathlib.Data.List.Nodup

/-!
# What a context holds

Devices and builds are put into a context under names, in any order: several under one name, a
build before its device, or under a name that no device is ever put under. Whatever the order, each
name of a device is listed once, in order of first allocation, with the device and the build that
came last under it.

The build of a device is looked for in the order of the names, not in the order of allocation: of
several names that hold the device, the least one decides. For a device held under one name only
there is nothing to decide, and both views of the context agree on its build.
-/

namespace Fleet.Context

section Allocating

variable {name : String} {device : Option Device}
  {allocated : List (String × Option Device)} {entry : String × Option Device}

/-- An entry of the allocation is the new one or an old one. -/
theorem mem_allocate (h : entry ∈ allocate name device allocated) :
    entry = (name, device) ∨ entry ∈ allocated := by
  induction allocated with
  | nil => exact .inl (List.mem_singleton.mp h)
  | cons held rest ih =>
    rw [allocate] at h
    split at h
    · exact (List.mem_cons.mp h).imp_right (List.mem_cons_of_mem _)
    · rcases List.mem_cons.mp h with rfl | hrest
      · exact .inr List.mem_cons_self
      · exact (ih hrest).imp_right (List.mem_cons_of_mem _)

/-- A name that is allocated again keeps its place; a new one comes last. -/
theorem map_fst_allocate (name : String) (device : Option Device)
    (allocated : List (String × Option Device)) :
    (allocate name device allocated).map Prod.fst =
      if name ∈ allocated.map Prod.fst then allocated.map Prod.fst
      else allocated.map Prod.fst ++ [name] := by
  induction allocated with
  | nil => rfl
  | cons entry rest ih =>
    obtain ⟨key, held⟩ := entry
    rw [allocate]
    by_cases hkey : key = name
    · simp [hkey]
    · rw [if_neg hkey, List.map_cons, ih]
      by_cases hrest : name ∈ rest.map Prod.fst
      · simp [hrest]
      · simp [hrest, Ne.symm hkey]

/-- To allocate a device adds one entry or replaces one. -/
theorem length_allocate : 0 < (allocate name device allocated).length ∧
    (allocate name device allocated).length ≤ allocated.length + 1 := by
  have hlength := congrArg List.length (map_fst_allocate name device allocated)
  rw [List.length_map] at hlength
  split at hlength
  · rename_i hname
    have hpositive := List.length_pos_of_mem hname
    rw [List.length_map] at hlength hpositive
    omega
  · rw [List.length_append, List.length_map, List.length_singleton] at hlength
    omega

private theorem lookup_allocate (name other : String) (device : Option Device)
    (allocated : List (String × Option Device)) :
    (allocate name device allocated).lookup other =
      if other = name then some device else allocated.lookup other := by
  induction allocated with
  | nil => exact Dict.lookup_cons_eq_ite name other device []
  | cons entry rest ih =>
    obtain ⟨key, held⟩ := entry
    rw [allocate]
    by_cases hkey : key = name
    · subst hkey
      rw [if_pos rfl, Dict.lookup_cons_eq_ite, Dict.lookup_cons_eq_ite]
      split <;> rfl
    · rw [if_neg hkey, Dict.lookup_cons_eq_ite, Dict.lookup_cons_eq_ite, ih]
      by_cases hother : other = key
      · subst hother
        simp [hkey]
      · simp only [if_neg hother]

end Allocating

section Views

variable {context : Context} {name : String} {device : Device}

/-- The allocation pairs what is held under each of the names with what is filed under it. -/
theorem allocation_eq (h : context.deviceNames.Nodup) :
    context.allocation =
      context.deviceNames.map fun name => (context.device name, context.build name) := by
  rw [allocation, deviceNames, List.map_map]
  apply List.map_congr_left
  rintro ⟨name, held⟩ hentry
  have hlookup : context.allocated.lookup name = some held :=
    (Dict.lookup_eq_some_iff_of_nodup h).mpr hentry
  simp [Context.device, hlookup]

private theorem mem_allocated_iff (h : context.deviceNames.Nodup) :
    (name, some device) ∈ context.allocated ↔ context.device name = some device := by
  rw [Context.device, Option.join_eq_some_iff, Dict.lookup_eq_some_iff_of_nodup h]

private theorem mem_ofList_allocated_iff (h : context.deviceNames.Nodup) :
    (name, some device) ∈ (Dict.ofList context.allocated).entries ↔
      context.device name = some device := by
  have hperm : (Dict.ofList context.allocated).entries.Perm context.allocated :=
    Dict.ofList_perm h
  rw [hperm.mem_iff, mem_allocated_iff h]

/-- Of the names that hold a device, the least one decides on its build. -/
theorem buildFor_of_least (h : context.deviceNames.Nodup)
    (hheld : context.device name = some device)
    (hleast : ∀ other, context.device other = some device → name ≤ other) :
    context.buildFor (some device) = context.build name := by
  have hfound : (Dict.ofList context.allocated).entries.find?
      (fun entry => entry.2 = some device) = some (name, some device) := by
    apply Dict.find?_eq_some_of_least (Dict.ofList context.allocated).sorted
    · exact (mem_ofList_allocated_iff h).mpr hheld
    · exact decide_eq_true rfl
    · rintro ⟨other, held⟩ hother hsame
      obtain rfl : held = some device := of_decide_eq_true hsame
      exact hleast other ((mem_ofList_allocated_iff h).mp hother)
  rw [buildFor, hfound]

/-- The order of allocation is not asked for. -/
example :
    let shared : Device := ⟨"shared", .physical⟩
    let context := ({} : Context).addDevice "b" (some shared) |>.addBuild "b" (some ⟨"first"⟩)
      |>.addDevice "a" (some shared) |>.addBuild "a" (some ⟨"second"⟩)
    context.deviceNames = ["b", "a"] ∧ context.buildFor (some shared) = some ⟨"second"⟩ := by
  decide

private theorem buildFor_eq_none (h : context.deviceNames.Nodup)
    (habsent : ∀ name, context.device name ≠ some device) :
    context.buildFor (some device) = none := by
  have hfound : (Dict.ofList context.allocated).entries.find?
      (fun entry => entry.2 = some device) = none := by
    rw [List.find?_eq_none]
    rintro ⟨name, held⟩ hentry hsame
    obtain rfl : held = some device := of_decide_eq_true hsame
    exact habsent name ((mem_ofList_allocated_iff h).mp hentry)
  rw [buildFor, hfound]

/-- A device that one name only holds is in one pair of the allocation, with the build that is
found for it. -/
theorem filter_allocation_of_sole (h : context.deviceNames.Nodup)
    (hsole : ∃! name, context.device name = some device) :
    context.allocation.filter (fun pair => pair.1 = some device) =
      [(some device, context.buildFor (some device))] := by
  obtain ⟨name, hheld, hsole⟩ := hsole
  have hname : name ∈ context.deviceNames :=
    List.mem_map_of_mem ((mem_allocated_iff h).mpr hheld)
  have hnames : context.deviceNames.filter (fun other => context.device other = some device) =
      [name] := by
    rw [← List.perm_singleton, List.perm_ext_iff_of_nodup (h.filter _) (List.nodup_singleton name)]
    intro other
    rw [List.mem_filter, List.mem_singleton, decide_eq_true_eq]
    constructor
    · exact fun hother => hsole other hother.2
    · rintro rfl
      exact ⟨hname, hheld⟩
  -- The search goes by the order of the names, and a sole name is the least one.
  have hbuild : context.buildFor (some device) = context.build name :=
    buildFor_of_least h hheld fun other hother => (hsole other hother) ▸ String.le_refl _
  rw [allocation_eq h, List.filter_map, Function.comp_def, hnames, List.map_singleton, hheld,
    hbuild]

end Views

section Additions

/-- Something that is put into a context. -/
inductive Addition where
  | device (name : String) (device : Option Device)
  | build (name : String) (build : Option Build)
  /-- A value of an attribute. -/
  | value (key value : String)

/-- The context with an addition. -/
def add (context : Context) : Addition → Context
  | .device name device => context.addDevice name device
  | .build name build => context.addBuild name build
  | .value key value => context.addAttribute key value

/-- A new context, with some additions made one after the other. -/
def filled (id : String) (additions : List Addition) : Context :=
  additions.foldl add { invocationId := id }

/-- The names that devices are put under, with repetitions. -/
def namesIn (additions : List Addition) : List String :=
  additions.filterMap fun
    | .device name _ => some name
    | _ => none

/-- The devices that are put under a name. -/
def devicesUnder (name : String) (additions : List Addition) : List (Option Device) :=
  additions.filterMap fun
    | .device other device => if other = name then some device else none
    | _ => none

/-- The builds that are put under a name. -/
def buildsUnder (name : String) (additions : List Addition) : List (Option Build) :=
  additions.filterMap fun
    | .build other build => if other = name then some build else none
    | _ => none

/-- A context lists the names in the order in which they came, and under each name holds what came
last. -/
structure Reflects (context : Context) (additions : List Addition) : Prop where
  names : context.deviceNames = (namesIn additions).eraseDups
  nodup : context.deviceNames.Nodup
  devices : ∀ name, context.allocated.lookup name = (devicesUnder name additions).getLast?
  builds : ∀ name, context.builds.get? name = (buildsUnder name additions).getLast?

variable {context : Context} {additions : List Addition}

/-- A name at the end is listed there if it is new. -/
theorem eraseDups_concat (names : List String) (name : String) :
    (names ++ [name]).eraseDups =
      if name ∈ names then names.eraseDups else names.eraseDups ++ [name] := by
  rw [List.eraseDups_append]
  by_cases h : name ∈ names
  · simp [List.removeAll, h]
  · simp [List.removeAll, h, List.eraseDups_cons]

/-- Whatever is chosen of the last addition comes last. -/
theorem getLast?_filterMap_concat {α : Type} (f : Addition → Option α)
    (additions : List Addition) (addition : Addition) :
    ((additions ++ [addition]).filterMap f).getLast? =
      (f addition).or (additions.filterMap f).getLast? := by
  rw [List.filterMap_append, List.getLast?_append]
  cases h : f addition with
  | none => simp [h]
  | some chosen => simp [h]

private theorem reflects_new (id : String) : Reflects { invocationId := id } [] :=
  ⟨rfl, List.nodup_nil, fun _ => rfl, fun _ => rfl⟩

private theorem Reflects.addDevice (h : Reflects context additions) (name : String)
    (device : Option Device) :
    Reflects (context.addDevice name device) (additions ++ [.device name device]) := by
  have hnames : (context.addDevice name device).deviceNames =
      if name ∈ context.deviceNames then context.deviceNames else context.deviceNames ++ [name] :=
    map_fst_allocate name device context.allocated
  constructor
  · have hlast : namesIn (additions ++ [.device name device]) = namesIn additions ++ [name] :=
      List.filterMap_append
    rw [hnames, hlast, eraseDups_concat, h.names]
    simp only [List.mem_eraseDups]
  · rw [hnames]
    split
    · exact h.nodup
    · rename_i hnew
      rw [← List.concat_eq_append]
      exact h.nodup.concat hnew
  · intro other
    have hlookup : (context.addDevice name device).allocated.lookup other =
        if other = name then some device else context.allocated.lookup other :=
      lookup_allocate name other device context.allocated
    rw [hlookup, devicesUnder, getLast?_filterMap_concat, h.devices]
    by_cases hother : other = name
    · simp [hother]
    · simp [hother, Ne.symm hother, devicesUnder]
  · intro other
    rw [buildsUnder, getLast?_filterMap_concat]
    exact h.builds other

private theorem Reflects.addBuild (h : Reflects context additions) (name : String)
    (build : Option Build) :
    Reflects (context.addBuild name build) (additions ++ [.build name build]) := by
  constructor
  · have hlast : namesIn (additions ++ [.build name build]) = namesIn additions := by
      simp [namesIn]
    rw [hlast]
    exact h.names
  · exact h.nodup
  · intro other
    rw [devicesUnder, getLast?_filterMap_concat]
    exact h.devices other
  · intro other
    have hbuild : (context.addBuild name build).builds.get? other =
        if other = name then some build else context.builds.get? other :=
      Dict.get?_insert context.builds name other build
    rw [hbuild, buildsUnder, getLast?_filterMap_concat, h.builds]
    by_cases hother : other = name
    · simp [hother]
    · simp [hother, Ne.symm hother, buildsUnder]

private theorem Reflects.addAttribute (h : Reflects context additions) (key value : String) :
    Reflects (context.addAttribute key value) (additions ++ [.value key value]) := by
  constructor
  · have hnames : namesIn (additions ++ [.value key value]) = namesIn additions := by
      simp [namesIn]
    rw [hnames]
    exact h.names
  · exact h.nodup
  · intro name
    rw [devicesUnder, getLast?_filterMap_concat]
    exact h.devices name
  · intro name
    rw [buildsUnder, getLast?_filterMap_concat]
    exact h.builds name

private theorem Reflects.add (h : Reflects context additions) (addition : Addition) :
    Reflects (context.add addition) (additions ++ [addition]) := by
  cases addition with
  | device name device => exact h.addDevice name device
  | build name build => exact h.addBuild name build
  | value key value => exact h.addAttribute key value

private theorem reflects_filled (id : String) (additions : List Addition) :
    Reflects (filled id additions) additions := by
  induction additions using List.reverseRecOn with
  | nil => exact reflects_new id
  | append_singleton additions addition ih =>
    rw [filled, List.foldl_append]
    exact ih.add addition

/-- Whatever is put into a new context, and in whatever order: each name of a device is listed once,
in order of first allocation; the allocation pairs the device and the build that came last under
each of the names; and a device that one of the names holds, and no other one, is found the build
that it is paired with. No build is found for a device that no name holds. -/
theorem additions_read_back (id : String) (additions : List Addition) :
    let context := filled id additions
    context.deviceNames.Nodup ∧
      context.deviceNames = (namesIn additions).eraseDups ∧
      context.allocation = context.deviceNames.map (fun name =>
        ((devicesUnder name additions).getLast?.join,
          (buildsUnder name additions).getLast?.join)) ∧
      ∀ device : Device,
        ((∃! name, context.device name = some device) →
          context.allocation.filter (fun pair => pair.1 = some device) =
            [(some device, context.buildFor (some device))]) ∧
        ((∀ name, context.device name ≠ some device) →
          context.buildFor (some device) = none) := by
  intro context
  have h : Reflects context additions := reflects_filled id additions
  refine ⟨h.nodup, h.names, ?_, fun device => ⟨?_, ?_⟩⟩
  · rw [allocation_eq h.nodup]
    apply List.map_congr_left
    intro name _
    rw [Context.device, Context.build, h.devices, h.builds]
  · exact filter_allocation_of_sole h.nodup
  · exact buildFor_eq_none h.nodup

/-- A build comes before its device, another one under a name without a device, and one name is
allocated again. -/
def shuffled : List Addition :=
  [.build "b" (some ⟨"early"⟩), .device "b" (some ⟨"one", .physical⟩),
    .device "a" (some ⟨"two", .virtual⟩), .build "c" (some ⟨"stray"⟩), .value "lab" "north",
    .device "b" (some ⟨"three", .physical⟩), .build "a" (some ⟨"old"⟩),
    .build "a" (some ⟨"new"⟩)]

/-- Of the two devices under the first name only the later one is found again, and the stray build
is allocated to nothing. -/
theorem additions_read_back_shuffled :
    let one : Device := ⟨"one", .physical⟩
    let two : Device := ⟨"two", .virtual⟩
    let context := filled "nightly" shuffled
    context.deviceNames = ["b", "a"] ∧
      context.allocation =
        [(some ⟨"three", .physical⟩, some ⟨"early"⟩), (some two, some ⟨"new"⟩)] ∧
      (∃! name, context.device name = some two) ∧
      context.buildFor (some two) = some ⟨"new"⟩ ∧
      (∀ name, context.device name ≠ some one) ∧ context.buildFor (some one) = none := by
  intro one two context
  obtain ⟨hnodup, hnames, hallocation, hbuilds⟩ := additions_read_back "nightly" shuffled
  have hlisted : context.deviceNames = ["b", "a"] := hnames.trans (by decide)
  have hpairs : context.allocation =
      [(some ⟨"three", .physical⟩, some ⟨"early"⟩), (some two, some ⟨"new"⟩)] := by
    rw [hallocation, hlisted]
    decide
  have hallocated : context.allocated =
      [("b", some ⟨"three", .physical⟩), ("a", some two)] := by
    decide
  have hsole : ∃! name, context.device name = some two := by
    refine ⟨"a", by decide, fun name hname => ?_⟩
    have hentry := (mem_allocated_iff hnodup).mpr hname
    rw [hallocated] at hentry
    simpa [two] using hentry
  have habsent : ∀ name, context.device name ≠ some one := by
    intro name hname
    have hentry := (mem_allocated_iff hnodup).mpr hname
    rw [hallocated] at hentry
    simp [one, two] at hentry
  have hfound := (hbuilds two).1 hsole
  rw [hpairs] at hfound
  refine ⟨hlisted, hpairs, hsole, ?_, habsent, (hbuilds one).2 habsent⟩
  simpa [two] using hfound.symm

end Additions

end Fleet.Context
