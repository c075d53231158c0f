import Mathlib.Data.List.Basic
import StubForge.Library.Resolution

set_option autoImplicit false

/-!
What a world holds after its modules were changed. How classes relate does not depend on modules.
-/

namespace StubForge

theorem Json.find_set_member {α : Type} (key other : String) (value : α) (members : List (String × α)) :
    (setMember key value members).find? (·.1 == other) =
      if key = other then some (key, value) else members.find? (·.1 == other) := by
  induction members with
  | nil => by_cases same : key = other <;> simp [setMember, same]
  | cons first rest ih =>
      obtain ⟨k, v⟩ := first
      by_cases here : k = key
      · subst here
        by_cases same : k = other <;> simp [setMember, same]
      · by_cases same : key = other
        · subst same
          simp [setMember, here, ih]
        · by_cases found : k = other
          · subst found
            simp [setMember, here, same]
          · simp [setMember, here, found, same, ih]

theorem Json.set_member_twice {α : Type} (key : String) (first second : α) (members : List (String × α)) :
    setMember key second (setMember key first members) = setMember key second members := by
  induction members with
  | nil => simp [setMember]
  | cons entry rest ih =>
      obtain ⟨k, v⟩ := entry
      by_cases here : k = key <;> simp [setMember, here, ih]

namespace World

theorem module_of_set (world : World) (record : ModuleRecord) (name : String) :
    (world.setModule record).module? name = if record.name = name then some record else world.module? name := by
  rw [module?, setModule, Json.find_set_member]
  split <;> rfl

theorem module_of_modify (world : World) (name other : String) (change : ModuleRecord → ModuleRecord)
    (named : ∀ record, world.module? name = some record → (change record).name = name) :
    (world.modifyModule name change).module? other =
      if name = other then (world.module? name).map change else world.module? other := by
  rw [modifyModule]
  cases found : world.module? name with
  | none =>
      dsimp only
      split
      · rename_i same
        rw [← same, found]
        rfl
      · rfl
  | some record =>
      dsimp only
      rw [module_of_set, named record found]
      rfl

theorem module_of_forget (world : World) (name other : String) :
    (world.forgetModule name).module? other = if name = other then none else world.module? other := by
  rw [module?, module?, forgetModule, List.find?_filter]
  split
  · rename_i same
    rw [List.find?_eq_none.mpr]
    · rfl
    · simp [same]
  · rename_i different
    congr 2
    funext entry
    by_cases here : entry.1 = other
    · simp [here, Ne.symm different]
    · simp [here]

-- The record of a module bears its name.
def Named (name : String) (world : World) : Prop := ∀ record, world.module? name = some record → record.name = name

theorem named_of_set (world : World) (record : ModuleRecord) (name : String) (named : Named name world) :
    Named name (world.setModule record) := by
  intro other found
  rw [module_of_set] at found
  split at found
  · rename_i own
    cases found
    exact own
  · exact named other found

theorem named_of_modify (world : World) (module name : String) (change : ModuleRecord → ModuleRecord)
    (named : Named name world) : Named name (world.modifyModule module change) := by
  unfold modifyModule
  split
  · exact named_of_set _ _ _ named
  · exact named

theorem named_of_forget (world : World) (module name : String) (named : Named name world) :
    Named name (world.forgetModule module) := by
  intro record found
  rw [module_of_forget] at found
  split at found
  · cases found
  · exact named record found

theorem modify_of_set (world : World) (record : ModuleRecord) (change : ModuleRecord → ModuleRecord)
    (named : (change record).name = record.name) :
    (world.setModule record).modifyModule record.name change = world.setModule (change record) := by
  rw [modifyModule, module_of_set, if_pos rfl]
  simp only [setModule, named, Json.set_member_twice]

theorem classes_of_modify (world : World) (name : String) (change : ModuleRecord → ModuleRecord) :
    (world.modifyModule name change).classes = world.classes := by
  unfold modifyModule
  split <;> rfl

theorem disk_of_modify (world : World) (name : String) (change : ModuleRecord → ModuleRecord) :
    (world.modifyModule name change).disk = world.disk := by
  unfold modifyModule
  split <;> rfl

theorem path_of_modify (world : World) (name : String) (change : ModuleRecord → ModuleRecord) :
    (world.modifyModule name change).path = world.path := by
  unfold modifyModule
  split <;> rfl

section

variable {a b : World} (same : a.classes = b.classes)
include same

theorem subclass_of_same_classes (id ancestor : ClassId) : a.isSubclass id ancestor = b.isSubclass id ancestor := by
  have from_fuel : ∀ fuel id ancestor, a.isSubclassFrom fuel id ancestor = b.isSubclassFrom fuel id ancestor := by
    intro fuel
    induction fuel with
    | zero =>
        intro id ancestor
        simp only [isSubclassFrom, isSubtype, orderOf, class?, same]
    | succ fuel ih =>
        intro id ancestor
        have inner : a.isSubclassFrom fuel id = b.isSubclassFrom fuel id := funext fun other => ih id other
        simp only [isSubclassFrom, isSubtype, orderOf, metaclassOf, subclassesOf, class?, same, inner]
  rw [isSubclass, isSubclass, same, from_fuel]

theorem protocol_of_same_classes (id : ClassId) : a.isProtocol id = b.isProtocol id := by
  simp only [isProtocol, metaclassOf, attribute?, orderOf, class?, same]

theorem abstract_of_same_classes (id : ClassId) : a.isAbstract id = b.isAbstract id := by
  simp only [isAbstract, class?, same]

theorem enumeration_of_same_classes (id : ClassId) : a.isEnumeration id = b.isEnumeration id := by
  simp only [isEnumeration, isSubtype, orderOf, class?, same]

theorem closed_of_same_classes (id : ClassId) : a.isClosedProtocol id = b.isClosedProtocol id := by
  simp only [isClosedProtocol, metaclassOf, class?, same]

end

/-! ### Another disk -/

-- The same world on another disk.
def onto (disk : Disk) (world : World) : World := { world with disk }

section

variable (disk : Disk) (world : World)

@[simp] theorem onto_scopes : (world.onto disk).scopes = world.scopes := rfl
@[simp] theorem onto_classes : (world.onto disk).classes = world.classes := rfl
@[simp] theorem onto_tags_made : (world.onto disk).tagsMade = world.tagsMade := rfl
@[simp] theorem onto_module : (world.onto disk).module? = world.module? := rfl
@[simp] theorem onto_class : (world.onto disk).class? = world.class? := rfl
@[simp] theorem onto_is_subtype : (world.onto disk).isSubtype = world.isSubtype := rfl
@[simp] theorem onto_is_abstract : (world.onto disk).isAbstract = world.isAbstract := rfl
@[simp] theorem onto_metaclass_of : (world.onto disk).metaclassOf = world.metaclassOf := rfl
@[simp] theorem onto_ancestor_order : (world.onto disk).ancestorOrder = world.ancestorOrder := rfl
@[simp] theorem onto_name_of : (world.onto disk).nameOf = world.nameOf := rfl
@[simp] theorem onto_type_name : (world.onto disk).typeName = world.typeName := rfl
@[simp] theorem onto_value_text : (world.onto disk).valueText = world.valueText := rfl
@[simp] theorem onto_class_text : (world.onto disk).classText = world.classText := rfl

@[simp] theorem onto_is_subclass : (world.onto disk).isSubclass = world.isSubclass :=
  funext fun id => funext fun ancestor => @subclass_of_same_classes (world.onto disk) world rfl id ancestor

end

theorem onto_modify_module (disk : Disk) (world : World) (name : String) (change : ModuleRecord → ModuleRecord) :
    (world.onto disk).modifyModule name change = (world.modifyModule name change).onto disk := by
  have known : (world.onto disk).module? name = world.module? name := rfl
  rw [modifyModule, modifyModule, known]
  cases world.module? name <;> rfl

end World

end StubForge
