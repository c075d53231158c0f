import Mathlib.Data.List.Basic
import StubForge.Library.Resolution
import StubForge.Proofs.Worlds

set_option autoImplicit false

/-!
Classes stay what they were when they were defined: more tags may be put on them, and more classes may be registered
under them. What counts as a subclass goes on counting as one.
-/

namespace StubForge

-- A class as it was and as it is: only its tags and the classes registered under it may be other.
structure Aged (before after : ClassRecord) : Prop where
  same : after = { before with tags := after.tags, virtuals := after.virtuals }
  virtuals : ∀ id ∈ before.virtuals, id ∈ after.virtuals

theorem aged_refl (record : ClassRecord) : Aged record record := ⟨rfl, fun _ inside => inside⟩

theorem aged_trans {first middle last : ClassRecord} (start : Aged first middle) (rest : Aged middle last) :
    Aged first last := by
  refine ⟨?_, fun id inside => rest.virtuals id (start.virtuals id inside)⟩
  rw [rest.same, start.same]

-- The classes of a world are among those of another.
def Grown (before after : World) : Prop :=
  ∀ id record, before.class? id = some record → ∃ later, after.class? id = some later ∧ Aged record later

theorem grown_refl (world : World) : Grown world world := fun _ record found => ⟨record, found, aged_refl record⟩

theorem grown_trans {first middle last : World} (start : Grown first middle) (rest : Grown middle last) :
    Grown first last := by
  intro id record found
  obtain ⟨middle, known, aged⟩ := start id record found
  obtain ⟨later, present, further⟩ := rest id middle known
  exact ⟨later, present, aged_trans aged further⟩

theorem grown_of_same_classes {before after : World} (same : after.classes = before.classes) : Grown before after := by
  intro id record found
  refine ⟨record, ?_, aged_refl record⟩
  rw [World.class?, same]
  exact found

theorem grown_modify (world : World) (id : ClassId) (change : ClassRecord → ClassRecord)
    (aging : ∀ record, Aged record (change record)) : Grown world (world.modifyClass id change) := by
  intro other record found
  rw [World.class?] at found
  rw [World.class?, World.modifyClass, Array.getElem?_modify, found]
  split
  · exact ⟨_, rfl, aging record⟩
  · exact ⟨_, rfl, aged_refl record⟩

theorem grown_push (world : World) (record : ClassRecord) :
    Grown world { world with classes := world.classes.push record } := by
  intro id known found
  refine ⟨known, ?_, aged_refl known⟩
  rw [World.class?] at found
  have bound : id < world.classes.size := (Array.getElem?_eq_some_iff.mp found).1
  change (world.classes.push record)[id]? = some known
  rw [Array.getElem?_push, if_neg (Nat.ne_of_lt bound), found]

namespace World

section

variable {before after : World} (grown : Grown before after)
include grown

theorem known_of_grown (id : ClassId) (known : (before.class? id).isSome = true) : (after.class? id).isSome = true := by
  obtain ⟨record, found⟩ := Option.isSome_iff_exists.mp known
  obtain ⟨later, present, -⟩ := grown id record found
  rw [present]
  rfl

theorem order_of_known (id : ClassId) (known : (before.class? id).isSome = true) :
    after.orderOf id = before.orderOf id := by
  obtain ⟨record, found⟩ := Option.isSome_iff_exists.mp known
  obtain ⟨later, present, aged⟩ := grown id record found
  rw [orderOf, orderOf, found, present, aged.same]
  rfl

theorem metaclass_of_known (id : ClassId) (known : (before.class? id).isSome = true) :
    after.metaclassOf id = before.metaclassOf id := by
  obtain ⟨record, found⟩ := Option.isSome_iff_exists.mp known
  obtain ⟨later, present, aged⟩ := grown id record found
  rw [metaclassOf, metaclassOf, found, present, aged.same]
  rfl

omit grown in
theorem known_of_subtype (id ancestor : ClassId) (subtype : before.isSubtype id ancestor = true) :
    (before.class? id).isSome = true := by
  rw [isSubtype, orderOf] at subtype
  cases found : before.class? id with
  | none => simp [found] at subtype
  | some record => rfl

-- The subclasses that are followed are the class itself in the end, so it must be one.
omit grown in
theorem known_of_subclass (id ancestor : ClassId) (subclass : before.isSubclass id ancestor = true) :
    (before.class? id).isSome = true := by
  have from_fuel : ∀ fuel ancestor, before.isSubclassFrom fuel id ancestor = true →
      (before.class? id).isSome = true := by
    intro fuel
    induction fuel with
    | zero => exact fun ancestor => known_of_subtype id ancestor
    | succ fuel ih =>
        intro ancestor subclass
        rw [isSubclassFrom, Bool.or_eq_true, Bool.and_eq_true] at subclass
        rcases subclass with subtype | ⟨-, through⟩
        · exact known_of_subtype id ancestor subtype
        · obtain ⟨other, -, holds⟩ := List.any_eq_true.mp through
          exact ih other holds
  exact from_fuel _ _ subclass

theorem subtype_grows (id ancestor : ClassId) (subtype : before.isSubtype id ancestor = true) :
    after.isSubtype id ancestor = true := by
  have known := known_of_subtype id ancestor subtype
  rw [isSubtype] at subtype ⊢
  rwa [order_of_known grown id known]

theorem size_grows : before.classes.size ≤ after.classes.size := by
  by_contra smaller
  have bound : after.classes.size < before.classes.size := Nat.lt_of_not_le smaller
  obtain ⟨later, present, -⟩ := grown after.classes.size before.classes[after.classes.size]
    (by rw [class?, Array.getElem?_eq_getElem bound])
  rw [class?, Array.getElem?_eq_none (Nat.le_refl _)] at present
  cases present

theorem subclasses_grow (id other : ClassId) (inside : other ∈ before.subclassesOf id) :
    other ∈ after.subclassesOf id := by
  rw [subclassesOf, List.mem_filter, List.mem_range] at inside ⊢
  obtain ⟨bound, listed⟩ := inside
  refine ⟨Nat.lt_of_lt_of_le bound (size_grows grown), ?_⟩
  cases found : before.class? other with
  | none => simp [found] at listed
  | some record =>
      obtain ⟨later, present, aged⟩ := grown other record found
      rw [found] at listed
      rw [present, aged.same]
      exact listed

theorem virtuals_grow (id other : ClassId) (inside : other ∈ ((before.class? id).map (·.virtuals)).getD []) :
    other ∈ ((after.class? id).map (·.virtuals)).getD [] := by
  cases found : before.class? id with
  | none => simp [found] at inside
  | some record =>
      obtain ⟨later, present, aged⟩ := grown id record found
      rw [found] at inside
      rw [present]
      exact aged.virtuals other inside

-- By induction on how far the subclasses are followed.
theorem subclass_from_grows (fuel more id ancestor : Nat) (enough : fuel ≤ more)
    (subclass : before.isSubclassFrom fuel id ancestor = true) : after.isSubclassFrom more id ancestor = true := by
  induction fuel generalizing more ancestor with
  | zero =>
      have subtype := subtype_grows grown id ancestor subclass
      cases more with
      | zero => exact subtype
      | succ more => simp [isSubclassFrom, subtype]
  | succ fuel ih =>
      cases more with
      | zero => omega
      | succ more =>
          rw [isSubclassFrom, Bool.or_eq_true, Bool.and_eq_true] at subclass ⊢
          rcases subclass with subtype | ⟨registers, through⟩
          · exact .inl (subtype_grows grown id ancestor subtype)
          · refine .inr ⟨?_, ?_⟩
            · have known : (before.class? ancestor).isSome = true := by
                rw [metaclassOf] at registers
                cases found : before.class? ancestor with
                | none => simp [found] at registers
                | some record => rfl
              rwa [metaclass_of_known grown ancestor known]
            · obtain ⟨other, inside, holds⟩ := List.any_eq_true.mp through
              refine List.any_eq_true.mpr ⟨other, ?_, ih more other (by omega) holds⟩
              rcases List.mem_append.mp inside with registered | derived
              · exact List.mem_append_left _ (virtuals_grow grown ancestor other registered)
              · exact List.mem_append_right _ (subclasses_grow grown ancestor other derived)

theorem subclass_grows (id ancestor : ClassId) (subclass : before.isSubclass id ancestor = true) :
    after.isSubclass id ancestor = true :=
  subclass_from_grows grown _ _ id ancestor (Nat.succ_le_succ (size_grows grown)) subclass

theorem abstract_of_known (id : ClassId) (known : (before.class? id).isSome = true) :
    after.isAbstract id = before.isAbstract id := by
  obtain ⟨record, found⟩ := Option.isSome_iff_exists.mp known
  obtain ⟨later, present, aged⟩ := grown id record found
  rw [isAbstract, isAbstract, found, present, aged.same]

theorem enumeration_of_known (id : ClassId) (known : (before.class? id).isSome = true) :
    after.isEnumeration id = before.isEnumeration id := by
  rw [isEnumeration, isEnumeration, isSubtype, isSubtype, order_of_known grown id known]

theorem closed_of_known (id : ClassId) (known : (before.class? id).isSome = true) :
    after.isClosedProtocol id = before.isClosedProtocol id := by
  obtain ⟨record, found⟩ := Option.isSome_iff_exists.mp known
  obtain ⟨later, present, aged⟩ := grown id record found
  rw [isClosedProtocol, isClosedProtocol, metaclass_of_known grown id known, found, present, aged.same]
  rfl

end

end World

/-! ### New classes -/

-- What is merged has all that the lists have.
theorem Resolution.mem_merge (fuel : Nat) (lists : List (List ClassId)) (order : List ClassId)
    (merged : merge fuel lists = .ok order) : ∀ list ∈ lists, ∀ id ∈ list, id ∈ order := by
  induction fuel generalizing lists order with
  | zero => cases merged
  | succ fuel ih =>
      intro list member id inside
      have kept : list ∈ lists.filter (! ·.isEmpty) :=
        List.mem_filter.mpr ⟨member, by simp [List.ne_nil_of_mem inside]⟩
      simp only [merge] at merged
      split at merged
      · rename_i empty
        rw [List.isEmpty_iff.mp empty] at kept
        cases kept
      · split at merged
        · cases merged
        · rename_i head _
          cases rest : merge fuel ((lists.filter (! ·.isEmpty)).map (dropHead head)) with
          | error left => simp [rest, Except.map] at merged
          | ok tail =>
              simp only [rest, Except.map, Except.ok.injEq] at merged
              rw [← merged]
              by_cases own : id = head
              · exact own ▸ List.mem_cons_self
              · refine List.mem_cons_of_mem head (ih _ tail rest _ (List.mem_map_of_mem kept) id ?_)
                rw [dropHead]
                split
                · rename_i first
                  cases list with
                  | nil => cases inside
                  | cons other more =>
                      rw [List.head?_cons, Option.some.injEq] at first
                      exact (List.mem_cons.mp inside).resolve_left fun same => own (same.trans first)
                · exact inside

theorem World.mem_ancestor_order (world : World) (bases order : List ClassId)
    (resolved : world.ancestorOrder bases = .ok order) :
    ∀ base ∈ bases, ∀ ancestor ∈ world.orderOf base, ancestor ∈ order := by
  intro base member ancestor inside
  simp only [ancestorOrder] at resolved
  split at resolved
  · cases resolved
  · split at resolved
    · rename_i merged
      cases resolved
      exact Resolution.mem_merge _ _ _ merged _
        (List.mem_append_left _ (List.mem_map_of_mem member)) ancestor inside
    · cases resolved

-- What defining a class in a world gives: it comes first among its ancestors, and after it those of its bases. It is
-- made as protocols are only where one of its bases is, and then says whether it is one.
structure Founded (world : World) (record : ClassRecord) : Prop where
  order : ∃ ancestors, record.order = world.classes.size :: ancestors ∧
    (∀ base ∈ record.bases, ∀ ancestor ∈ world.orderOf base, ancestor ∈ ancestors) ∧
    (record.metaclass = .protocolBase → World.protocolId ∈ ancestors →
      (World.lookup "_is_protocol" record.members).isSome = true)
  protocol : record.metaclass = .protocolBase → ∃ base ∈ record.bases, world.metaclassOf base = .protocolBase

-- Every class comes first among its ancestors, and those made as protocols are say whether they are one.
def Orderly (world : World) : Prop :=
  ∀ id record, world.class? id = some record → record.order.head? = some id ∧
    (record.metaclass = .protocolBase → World.protocolId ∈ record.order ∧
      (World.lookup "_is_protocol" record.members).isSome = true)

theorem orderly_of_same_classes {before after : World} (same : after.classes = before.classes)
    (orderly : Orderly before) : Orderly after := by
  intro id record found
  rw [World.class?, same] at found
  exact orderly id record found

theorem orderly_push (world : World) (record : ClassRecord) (founded : Founded world record) (orderly : Orderly world) :
    Orderly { world with classes := world.classes.push record } := by
  obtain ⟨ancestors, order, inherits, marked⟩ := founded.order
  intro id known found
  change (world.classes.push record)[id]? = some known at found
  rw [Array.getElem?_push] at found
  split at found
  · rename_i last
    cases found
    rw [order]
    refine ⟨congrArg some last.symm, fun protocol => ?_⟩
    obtain ⟨base, member, same⟩ := founded.protocol protocol
    have inherited : World.protocolId ∈ ancestors := by
      cases held : world.class? base with
      | none => simp [World.metaclassOf, held] at same
      | some other =>
          have own := ((orderly base other held).2 (by simpa [World.metaclassOf, held] using same)).1
          exact inherits base member _ (by simpa [World.orderOf, held] using own)
    exact ⟨List.mem_cons_of_mem _ inherited, marked protocol inherited⟩
  · exact orderly id known found

theorem orderly_modify (world : World) (id : ClassId) (change : ClassRecord → ClassRecord)
    (aging : ∀ record, Aged record (change record)) (orderly : Orderly world) :
    Orderly (world.modifyClass id change) := by
  intro other record found
  rw [World.class?, World.modifyClass, Array.getElem?_modify] at found
  split at found
  · cases known : world.classes[other]? with
    | none => simp [known] at found
    | some before =>
        rw [known] at found
        cases found
        have kept := orderly other before known
        rwa [(aging before).same]
  · exact orderly other record found

-- Whether a class is a protocol is said by the class itself.
theorem World.protocol_of_known {before after : World} (grown : Grown before after) (orderly : Orderly before)
    (id : ClassId) (known : (before.class? id).isSome = true) : after.isProtocol id = before.isProtocol id := by
  obtain ⟨record, found⟩ := Option.isSome_iff_exists.mp known
  obtain ⟨later, present, aged⟩ := grown id record found
  obtain ⟨first, marks⟩ := orderly id record found
  rw [isProtocol, isProtocol, metaclass_of_known grown id known]
  by_cases protocol : record.metaclass = .protocolBase
  · obtain ⟨own, marked⟩ := Option.isSome_iff_exists.mp (marks protocol).2
    obtain ⟨rest, order⟩ : ∃ rest, record.order = id :: rest := by
      cases listed : record.order with
      | nil => simp [listed] at first
      | cons head rest =>
          rw [listed, List.head?_cons, Option.some.injEq] at first
          exact ⟨rest, by rw [first]⟩
    have members : later.members = record.members := by rw [aged.same]
    have same : after.attribute? id "_is_protocol" = before.attribute? id "_is_protocol" := by
      rw [attribute?, attribute?, order_of_known grown id known, orderOf, found]
      simp [order, found, present, members, marked]
    rw [same]
  · have other : (before.metaclassOf id == .protocolBase) = false := by
      simpa [metaclassOf, found] using protocol
    rw [other, Bool.false_and, Bool.false_and]

end StubForge
