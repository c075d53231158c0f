import StubForge.Proofs.TagStore

set_option autoImplicit false

/-!
What the tags of a class say about its command, whatever their order: each part of the metadata comes from the tags of
exactly the types it is about. Whether a tag carries meta information is said where its own type is declared.
-/

namespace StubForge

/-! ### Arguments keep their parameters -/

namespace Signature

section

variable {α : Type}

theorem names_of_fill (parameters : List (String × Bool)) (values : List α) :
    (fill parameters values).map (·.1) = parameters.map (·.1) := by
  induction parameters generalizing values with
  | nil => rfl
  | cons parameter rest ih => cases values <;> simp [fill, ih]

theorem names_of_set_named (callee name : String) (value : α) (bound after : List (String × Option α))
    (done : setNamed callee name value bound = .ok after) : after.map (·.1) = bound.map (·.1) := by
  induction bound generalizing after with
  | nil => cases done
  | cons first rest ih =>
      obtain ⟨parameter, held⟩ := first
      simp only [setNamed] at done
      split at done
      · cases held with
        | some other => cases done
        | none =>
            cases done
            rfl
      · cases next : setNamed callee name value rest with
        | error fault =>
            rw [next] at done
            cases done
        | ok tail =>
            rw [next] at done
            cases done
            simp [ih tail next]

theorem names_of_set_all (callee : String) (named : List (String × α)) (bound after : List (String × Option α))
    (done : named.foldlM (fun bound argument => setNamed callee argument.1 argument.2 bound) bound = .ok after) :
    after.map (·.1) = bound.map (·.1) := by
  induction named generalizing bound with
  | nil =>
      cases done
      rfl
  | cons argument rest ih =>
      rw [List.foldlM_cons] at done
      cases next : setNamed callee argument.1 argument.2 bound with
      | error fault =>
          rw [next] at done
          cases done
      | ok middle =>
          rw [next] at done
          rw [ih middle done, names_of_set_named _ _ _ _ _ next]

theorem names_of_bind (signature : Signature) (positional : List α) (named : List (String × α))
    (bound : List (String × Option α)) (done : signature.bind positional named = .ok bound) :
    bound.map (·.1) = signature.parameters.map (·.1) := by
  simp only [bind] at done
  cases filled : named.foldlM (fun bound argument => setNamed signature.callee argument.1 argument.2 bound)
      (fill signature.parameters positional) with
  | error fault =>
      rw [filled] at done
      cases done
  | ok after =>
      rw [filled] at done
      have same : after = bound := by
        dsimp only [Bind.bind, Except.bind] at done
        split at done
        · cases done
        · split at done
          · exact Except.ok.inj done
          · cases done
      rw [← same, names_of_set_all _ _ _ _ filled, names_of_fill]

end

end Signature

namespace Exec

/-! ### Tags that are made -/

section

variable (world : World) (type : TagType) (args : List TagField) (named : List (String × TagField))
  (fields : List (String × TagField)) (done : tagFields world type args named = .ok fields)
include done

theorem names_of_fields (single : type.family.itemFamily = none) (own : type.family ≠ .custom) :
    fields.map (·.1) = type.family.fields.map (·.1) := by
  simp only [tagFields, single, if_neg own] at done
  split at done
  · cases done
  · rename_i bound arguments
    have names := Signature.names_of_bind _ args named bound arguments
    rw [List.map_map] at names
    cases done
    have size : bound.length = type.family.fields.length := by simpa using congrArg List.length names
    rw [List.map_map]
    calc (bound.zip type.family.fields).map _
      _ = ((bound.zip type.family.fields).map Prod.fst).map (·.1) := List.map_map.symm
      _ = bound.map (·.1) := by rw [List.map_fst_zip (Nat.le_of_eq size)]
      _ = type.family.fields.map (·.1) := names

-- A group has all that it was made of.
theorem fields_of_group (item : TagFamily) (group : type.family.itemFamily = some item) :
    ∃ items, fields = [("value", .items items)] ∧ args = items.map .tag := by
  simp only [tagFields, group] at done
  split at done
  · cases done
  · split at done
    · cases done
    · rename_i suits
      cases done
      refine ⟨_, rfl, ?_⟩
      rw [List.find?_eq_none] at suits
      clear group
      induction args with
      | nil => rfl
      | cons argument rest ih =>
          obtain ⟨own, others⟩ := List.forall_mem_cons.mp suits
          cases argument with
          | tag tag => exact congrArg (TagField.tag tag :: ·) (ih others)
          | constant value => simp [isTagOf] at own
          | items tags => simp [isTagOf] at own

end

theorem tag_of_make (id : ClassId) (args : List TagField) (named : List (String × TagField)) (world after : World)
    (tag : Tag) (done : makeTag (.cls id) args named world = (.ok tag, after)) :
    (world.class? id).isSome = true ∧ tag.type = tagTypeOf world id ∧
      tagFields world tag.type args named = .ok tag.fields := by
  change (if world.isSubtype id World.tagId then _ else _ : Exec Tag) world = _ at done
  split at done
  · rename_i subtype
    have known := World.known_of_subtype id World.tagId subtype
    cases made : tagFields world (tagTypeOf world id) args named with
    | error mishap =>
        rw [made] at done
        cases done
    | ok fields =>
        rw [made] at done
        cases done
        exact ⟨known, rfl, made⟩
  · repeat' split at done
    all_goals cases done

end Exec

/-! ### Exact types -/

namespace World

-- The class that is a bundled type of tags.
def typeId (family : TagFamily) : ClassId := ((tagTypeIds.find? fun entry => entry.1 == family).map (·.2)).getD tagId

theorem type_id_of_entry : ∀ entry ∈ tagTypeIds, typeId entry.1 = entry.2 := by decide

theorem entry_of_family (family : TagFamily) (own : family ≠ .custom) : (family, typeId family) ∈ tagTypeIds := by
  cases family with
  | custom => exact absurd rfl own
  | _ => decide

section

variable {world : World} (grown : Grown (initial {}) world)
include grown

-- The first bundled type among the ancestors of a bundled type is that type.
theorem family_of_entry (entry : TagFamily × ClassId) (member : entry ∈ tagTypeIds) :
    (Exec.tagTypeOf world entry.2).family = entry.1 := by
  have start : ∀ entry ∈ tagTypeIds, ((initial {}).class? entry.2).isSome = true ∧
      (Exec.tagTypeOf (initial {}) entry.2).family = entry.1 := by decide
  obtain ⟨known, family⟩ := start entry member
  rw [Exec.tagTypeOf] at family ⊢
  rwa [order_of_known grown entry.2 known]

theorem exactly_iff (id : ClassId) (family : TagFamily) (own : family ≠ .custom) :
    ((Exec.tagTypeOf world id).bundled && (Exec.tagTypeOf world id).family == family) = true ↔ id = typeId family := by
  rw [Bool.and_eq_true, beq_iff_eq]
  constructor
  · rintro ⟨bundled, rfl⟩
    obtain ⟨entry, member, same⟩ := List.any_eq_true.mp bundled
    obtain rfl : entry.2 = id := by simpa using same
    rw [family_of_entry grown entry member, type_id_of_entry entry member]
  · rintro rfl
    have member := entry_of_family family own
    exact ⟨List.any_eq_true.mpr ⟨_, member, by simp⟩, family_of_entry grown _ member⟩

end

end World

/-! ### Declarations of types -/

-- What the declaration of a class says about meta information. The bundled classes say nothing of it.
inductive Declared (world : World) : ClassId → Bool → Prop where
  | bundled (id : ClassId) (within : id < World.bundledClasses.length) : Declared world id false
  | made (frame : Frame) (head : ClassHead) (bases : List ClassId) (metaclass : Metaclass) (members : Bindings)
      (before after : World) (id : ClassId)
      (done : Exec.createClass frame head bases metaclass members before = (.ok id, after))
      (grown : Grown after world) : Declared world id head.marked

theorem declared_grows {before after : World} (grown : Grown before after) (id : ClassId) (marks : Bool)
    (declared : Declared before id marks) : Declared after id marks := by
  cases declared with
  | bundled id within => exact .bundled id within
  | made frame head bases metaclass members first made id done since =>
      exact .made frame head bases metaclass members first made id done (grown_trans since grown)

theorem declared_of_perform (first rest : List Deed) (frame : Frame) (head : ClassHead) (bases : List ClassId)
    (metaclass : Metaclass) (members : Bindings) (world : World) (id : ClassId)
    (done : (Exec.createClass frame head bases metaclass members (Deed.perform first world).2).1 = .ok id) :
    Declared (Deed.perform (first ++ .declare frame head bases metaclass members :: rest) world).2 id head.marked := by
  rw [Deed.perform_append]
  refine .made frame head bases metaclass members _ _ id (pair_of_fst done) ?_
  have ran : ((Deed.declare frame head bases metaclass members).run (Deed.perform first world).2).2 =
      (Exec.createClass frame head bases metaclass members (Deed.perform first world).2).2 := by
    rw [Deed.run, bind_ok (pair_of_fst done)]
    rfl
  rw [← ran]
  exact Deed.grown_perform rest _

theorem marked_of_declared {world : World} (grown : Grown (World.initial {}) world) (id : ClassId) (marks : Bool)
    (declared : Declared world id marks) : (world.class? id).map (·.marked) = some marks := by
  have kept {before : World} (since : Grown before world) (record : ClassRecord)
      (found : before.class? id = some record) : (world.class? id).map (·.marked) = some record.marked := by
    obtain ⟨later, present, aged⟩ := since id record found
    rw [present, aged.same]
    rfl
  cases declared with
  | bundled id within =>
      have start : ∀ id < World.bundledClasses.length,
          ((World.initial {}).class? id).map (·.marked) = some false := by decide
      obtain ⟨record, found, plain⟩ := Option.map_eq_some_iff.mp (start id within)
      rw [kept grown record found, plain]
  | made frame head bases metaclass members before after id done since =>
      rcases Exec.class_declared frame head bases metaclass members before with ⟨mishap, failed⟩ |
        ⟨record, -, -, -, marked, added⟩
      · rw [failed] at done
        cases done
      · rw [added] at done
        cases done
        rw [kept since record Array.getElem?_push_size, marked]

-- A tag that was made before of a class that is still there.
inductive Made (world : World) (tag : Tag) : Prop where
  | of (before after : World) (id : ClassId) (marks : Bool) (args : List TagField) (named : List (String × TagField))
      (begun : Grown (World.initial {}) before) (declared : Declared before id marks)
      (done : Exec.makeTag (.cls id) args named before = (.ok tag, after)) (grown : Grown before world) :
      Made world tag

section

variable {world : World} {tag : Tag} (made : Made world tag)
include made

theorem exactly_of_made (family : TagFamily) (own : family ≠ .custom) :
    tag.isExactly family = true ↔ tag.type.id = World.typeId family := by
  obtain ⟨before, after, id, marks, args, named, begun, declared, done, since⟩ := made
  obtain ⟨-, type, -⟩ := Exec.tag_of_make id args named before after tag done
  rw [Tag.isExactly, type]
  exact World.exactly_iff begun id family own

theorem family_of_made (family : TagFamily) (own : family ≠ .custom) (same : tag.type.id = World.typeId family) :
    tag.type.family = family := by
  have exactly := (exactly_of_made made family own).mpr same
  rw [Tag.isExactly, Bool.and_eq_true, beq_iff_eq] at exactly
  exact exactly.2

theorem carries_of_made (grown : Grown (World.initial {}) world) :
    tag.type.declaresMeta = true ↔ Declared world tag.type.id true := by
  obtain ⟨before, after, id, marks, args, named, begun, declared, done, since⟩ := made
  obtain ⟨-, type, -⟩ := Exec.tag_of_make id args named before after tag done
  have carried : tag.type.declaresMeta = marks := by
    rw [type, Exec.tagTypeOf, marked_of_declared begun id marks declared]
    rfl
  have known : tag.type.id = id := by rw [type, Exec.tagTypeOf]
  have now := declared_grows since id marks declared
  rw [carried, known]
  constructor
  · rintro rfl
    exact now
  · intro carries
    exact Option.some.inj
      ((marked_of_declared grown id marks now).symm.trans (marked_of_declared grown id true carries))

-- A tag that describes has a value.
theorem value_of_description (same : tag.type.id = World.typeId .description) :
    ∃ value, tag.field? "value" = some value := by
  have family := family_of_made made .description (by decide) same
  obtain ⟨before, after, id, marks, args, named, begun, declared, done, since⟩ := made
  obtain ⟨-, -, fields⟩ := Exec.tag_of_make id args named before after tag done
  have names := Exec.names_of_fields before tag.type args named tag.fields fields (by rw [family]; rfl)
    (by rw [family]; decide)
  rw [family] at names
  match held : tag.fields with
  | [] => simp [held, TagFamily.fields] at names
  | (name, value) :: rest =>
      rw [held, List.map_cons] at names
      obtain rfl : name = "value" := (List.cons.inj names).1
      exact ⟨value, by rw [Tag.field?, held]; rfl⟩

theorem items_of_made (family item : TagFamily) (group : family.itemFamily = some item)
    (same : tag.type.id = World.typeId family) : tag.field? "value" = some (.items tag.items) := by
  have own : family ≠ .custom := by
    rintro rfl
    cases group
  have kind := family_of_made made family own same
  obtain ⟨before, after, id, marks, args, named, begun, declared, done, since⟩ := made
  obtain ⟨-, -, fields⟩ := Exec.tag_of_make id args named before after tag done
  obtain ⟨items, held, -⟩ := Exec.fields_of_group before tag.type args named tag.fields fields item (kind ▸ group)
  have value : tag.field? "value" = some (.items items) := by rw [Tag.field?, held]; rfl
  rw [value, Tag.items, value]

end

/-! ### Metadata -/

-- The tags of exactly a bundled type.
def Tag.ofType (family : TagFamily) (tags : List Tag) : List Tag :=
  tags.filter fun tag => tag.type.id == World.typeId family

-- What metadata says of a class, by the types of the tags it is read from.
structure Reads (world : World) (record : ClassRecord) (tags : List Tag) (metadata : Metadata) : Prop where
  single : ∀ family, (Tag.ofType family tags).length ≤ 1
  params : metadata.params = Tag.ofType .param tags ++ (Tag.ofType .params tags).flatMap Tag.items
  throws : metadata.throws = Tag.ofType .thrown tags ++ (Tag.ofType .throws tags).flatMap Tag.items
  returns : metadata.returns = Tag.ofType .returned tags ++ (Tag.ofType .returns tags).flatMap Tag.items
  items : ∀ family item, family.itemFamily = some item → ∀ tag ∈ Tag.ofType family tags,
    tag.field? "value" = some (.items tag.items)
  described : ∀ tag ∈ Tag.ofType .description tags, tag.field? "value" = some metadata.description
  undescribed : Tag.ofType .description tags = [] → metadata.description = .constant (.string "")
  deprecated : metadata.deprecated = true ↔
    Tag.ofType .deprecated tags ≠ [] ∨ (World.lookup World.deprecationMark record.members).isSome = true
  marked : metadata.hasMetaInformations = true ↔ ∃ tag ∈ tags, Declared world tag.type.id true
  tags : metadata.tags = tags

section

variable {world : World} {tags : List Tag}

theorem tag_of_type (made : ∀ tag ∈ tags, Made world tag) (family : TagFamily) (own : family ≠ .custom) :
    Metadata.tagOf family tags = (Tag.ofType family tags).head? := by
  rw [Metadata.tagOf, ← List.head?_filter, Tag.ofType]
  refine congrArg List.head? (List.filter_congr fun tag member => ?_)
  rw [Bool.eq_iff_iff, exactly_of_made (made tag member) family own, beq_iff_eq]

theorem at_most_one (apart : (tags.map (·.type.id)).Nodup) (family : TagFamily) :
    (Tag.ofType family tags).length ≤ 1 := by
  have once := List.nodup_iff_count_le_one.mp apart (World.typeId family)
  rwa [List.count_eq_countP, List.countP_map, List.countP_eq_length_filter] at once

theorem option_of_type (apart : (tags.map (·.type.id)).Nodup) (family : TagFamily) :
    ∃ found : Option Tag, Tag.ofType family tags = found.toList := by
  have few := at_most_one apart family
  match listed : Tag.ofType family tags with
  | [] => exact ⟨none, rfl⟩
  | [tag] => exact ⟨some tag, rfl⟩
  | _ :: _ :: _ => simp [listed] at few

theorem of_type_perm (apart : (tags.map (·.type.id)).Nodup) (family : TagFamily) (others : List Tag)
    (same : others.Perm tags) : Tag.ofType family others = Tag.ofType family tags := by
  have reordered : (Tag.ofType family others).Perm (Tag.ofType family tags) := same.filter _
  obtain ⟨found, listed⟩ := option_of_type apart family
  rw [listed] at reordered ⊢
  cases found with
  | none => exact List.perm_nil.mp reordered
  | some tag => exact List.perm_singleton.mp reordered

theorem union_of_types (made : ∀ tag ∈ tags, Made world tag) (apart : (tags.map (·.type.id)).Nodup)
    (single group : TagFamily) (own : single ≠ .custom) (other : group ≠ .custom) :
    Metadata.union single group tags = Tag.ofType single tags ++ (Tag.ofType group tags).flatMap Tag.items := by
  obtain ⟨first, singles⟩ := option_of_type apart single
  obtain ⟨second, groups⟩ := option_of_type apart group
  rw [Metadata.union, tag_of_type made single own, tag_of_type made group other, singles, groups]
  cases first <;> cases second <;> simp

theorem reads_of_tags (grown : Grown (World.initial {}) world) (record : ClassRecord)
    (made : ∀ tag ∈ tags, Made world tag) (apart : (tags.map (·.type.id)).Nodup) :
    Reads world record tags
      (Metadata.ofTags (World.lookup World.deprecationMark record.members).isSome tags) := by
  have member (family : TagFamily) (tag : Tag) (inside : tag ∈ Tag.ofType family tags) :
      tag ∈ tags ∧ tag.type.id = World.typeId family := by
    simpa using List.mem_filter.mp inside
  constructor
  case single => exact at_most_one apart
  case params => exact union_of_types made apart .param .params (by decide) (by decide)
  case throws => exact union_of_types made apart .thrown .throws (by decide) (by decide)
  case returns => exact union_of_types made apart .returned .returns (by decide) (by decide)
  case items =>
    intro family item group tag inside
    exact items_of_made (made tag (member family tag inside).1) family item group (member family tag inside).2
  case described =>
    intro tag inside
    obtain ⟨value, held⟩ :=
      value_of_description (made tag (member _ tag inside).1) (member _ tag inside).2
    obtain ⟨found, listed⟩ := option_of_type apart .description
    obtain rfl : found = some tag := by simpa [listed] using inside
    rw [Metadata.ofTags, tag_of_type made .description (by decide), listed]
    change _ = some ((tag.field? "value").getD _)
    rw [held]
    rfl
  case undescribed =>
    intro none
    rw [Metadata.ofTags, tag_of_type made .description (by decide), none]
    rfl
  case deprecated =>
    change ((Metadata.tagOf .deprecated tags).isSome || _) = true ↔ _
    rw [tag_of_type made .deprecated (by decide), Bool.or_eq_true]
    cases Tag.ofType .deprecated tags <;> simp
  case marked =>
    change (tags.any fun tag => tag.type.declaresMeta) = true ↔ _
    rw [List.any_eq_true]
    exact exists_congr fun tag => and_congr_right fun inside => carries_of_made (made tag inside) grown
  case tags => rfl

-- No part of the metadata depends on the order of the tags, apart from the tags themselves.
theorem metadata_of_perm (made : ∀ tag ∈ tags, Made world tag) (apart : (tags.map (·.type.id)).Nodup)
    (declares : Bool) (others : List Tag) (same : others.Perm tags) :
    Metadata.ofTags declares others = { Metadata.ofTags declares tags with tags := others } := by
  have held (family : TagFamily) (own : family ≠ .custom) :
      Metadata.tagOf family others = Metadata.tagOf family tags := by
    rw [tag_of_type made family own, tag_of_type (fun tag inside => made tag (same.mem_iff.mp inside)) family own,
      of_type_perm apart family others same]
  simp only [Metadata.ofTags, Metadata.union, held .description (by decide), held .deprecated (by decide),
    held .param (by decide), held .params (by decide), held .thrown (by decide), held .throws (by decide),
    held .returned (by decide), held .returns (by decide), same.any_eq]

end

theorem World.metadata_with_tags (world : World) (id : ClassId) (record : ClassRecord)
    (known : world.class? id = some record) (untagged : record.tags = []) (tags : List Tag) :
    (world.withTags id tags).metadata id =
      Metadata.ofTags (World.lookup World.deprecationMark record.members).isSome tags := by
  rw [metadata, class_with_tags, if_pos rfl, known]
  change Metadata.ofTags _ (tags ++ record.tags) = _
  rw [untagged, List.append_nil]

-- The metadata of a command whose class had no tags before some were stacked on it. Tags that are put on other classes,
-- its bases among them, make no difference, whether they are put there before or after.
theorem metadata_of_stacked (world : World) (grown : Grown (World.initial {}) world) (id : ClassId)
    (record : ClassRecord) (known : world.class? id = some record) (untagged : record.tags = []) (tags : List Tag)
    (made : ∀ tag ∈ tags, Made world tag) (after : World)
    (stacked : Exec.stack tags (.cls id) world = (.ok (), after)) (fullName : String) :
    Reads world record tags (after.command fullName id).metadata ∧
    (∀ others, others.Perm tags → ∃ reordered, Exec.stack others (.cls id) world = (.ok (), reordered) ∧
      (reordered.command fullName id).metadata = { (after.command fullName id).metadata with tags := others }) ∧
    ∀ value, value ≠ .cls id → ∀ others,
      ((Exec.stack others value after).2.command fullName id).metadata = (after.command fullName id).metadata ∧
      ∃ later, Exec.stack tags (.cls id) (Exec.stack others value world).2 = (.ok (), later) ∧
        (later.command fullName id).metadata = (after.command fullName id).metadata := by
  have present : (world.class? id).isSome = true := by rw [known]; rfl
  obtain ⟨stackable, rfl⟩ := (Exec.stack_iff world id present tags after).mp stacked
  have own (others : List Tag) := World.metadata_with_tags world id record known untagged others
  simp only [World.command, own]
  refine ⟨reads_of_tags grown record made stackable.apart, ?_, ?_⟩
  · intro others same
    refine ⟨_, (Exec.stack_iff world id present others _).mpr ⟨stackable.of_perm same, rfl⟩, ?_⟩
    rw [own, metadata_of_perm made stackable.apart _ others same]
  · intro value other others
    have unchanged (start : World) : (Exec.stack others value start).2.class? id = start.class? id :=
      Exec.class_after_stack others value start id other
    have found := (unchanged world).trans known
    have held : (Exec.stack others value world).2.tagsOf id = world.tagsOf id := by rw [World.tagsOf, unchanged]; rfl
    have elsewhere : Exec.Stackable (Exec.stack others value world).2 id tags :=
      ⟨stackable.apart, held ▸ stackable.fresh, stackable.changeable⟩
    constructor
    · rw [World.metadata, unchanged, ← World.metadata, own]
    · refine ⟨_, (Exec.stack_iff _ id (by rw [found]; rfl) tags _).mpr ⟨elsewhere, rfl⟩, ?_⟩
      exact World.metadata_with_tags _ id record found untagged tags

/-! ### A library of tags -/

def auditedTag : Tag :=
  .of { id := 17, name := "Audited", family := .custom, bundled := false, declaresMeta := true } 0 []

def deprecatedTag : Tag :=
  .of { id := 9, name := "Deprecated", family := .deprecated, bundled := true, declaresMeta := false } 1
    [("reason", .constant (.string ""))]

-- The first type is derived from a bundled one, the third from one that carries meta information. The base of the
-- command has a tag of that one, and one that deprecates it.
def auditedDeeds : List Deed := [
  .declare { module := "m" } { name := "Own" } [World.typeId .param] .plain [],
  .declare { module := "m" } { name := "Audited", marked := true } [World.tagId] .plain [],
  .declare { module := "m" } { name := "Quiet" } [17] .plain [],
  .declare { module := "m" } { name := "Base" } [World.commandId] .abstractBase [],
  .apply deprecatedTag (.cls 19),
  .apply auditedTag (.cls 19),
  .declare { module := "m" } { name := "Derived" } [19] .abstractBase []]

def auditedWorld : World := (Deed.perform auditedDeeds (World.initial {})).2

theorem audited_grown : Grown (World.initial {}) auditedWorld := Deed.grown_perform auditedDeeds _

def paramOf (id : ClassId) (type : String) (bundled : Bool) (serial : Nat) (name : String) : Tag :=
  .of { id, name := type, family := .param, bundled, declaresMeta := false } serial
    [("name", .constant (.string name)), ("description", .constant (.string "")), ("type", .constant (.string "")),
      ("optional", .constant (.bool false)), ("default", .constant (.string ""))]

def groupedParams : Tag :=
  .of { id := 11, name := "Params", family := .params, bundled := true, declaresMeta := false } 4
    [("value", .items [paramOf 10 "Param" true 2 "b", paramOf 10 "Param" true 3 "c"])]

def quietTag : Tag :=
  .of { id := 18, name := "Quiet", family := .custom, bundled := false, declaresMeta := false } 6 []

def describingTag : Tag :=
  .of { id := 8, name := "Description", family := .description, bundled := true, declaresMeta := false } 8
    [("value", .constant (.string "text"))]

def derivedTags : List Tag :=
  [groupedParams, paramOf 16 "Own" false 5 "z", quietTag, paramOf 10 "Param" true 7 "a", describingTag]

theorem made_in_audited (made : Nat) (id : ClassId) (marks : Bool) (args : List TagField) (tag : Tag)
    (declared : Declared auditedWorld id marks)
    (done : (Exec.makeTag (.cls id) args [] { auditedWorld with tagsMade := made }).1 = .ok tag) :
    Made auditedWorld tag := by
  have here : Grown auditedWorld { auditedWorld with tagsMade := made } := grown_of_same_classes rfl
  exact .of _ _ id marks args [] (grown_trans audited_grown here) (declared_grows here id marks declared)
    (pair_of_fst done) (grown_of_same_classes rfl)

theorem derived_tags_made : ∀ tag ∈ derivedTags, Made auditedWorld tag := by
  have own : Declared auditedWorld 16 false :=
    declared_of_perform [] (auditedDeeds.drop 1) { module := "m" } { name := "Own" } _ _ _ _ _ rfl
  have quiet : Declared auditedWorld 18 false :=
    declared_of_perform (auditedDeeds.take 2) (auditedDeeds.drop 3) { module := "m" } { name := "Quiet" } _ _ _ _ _ rfl
  have bundled (id : ClassId) (within : id < World.bundledClasses.length) : Declared auditedWorld id false :=
    .bundled id within
  refine List.forall_mem_cons.mpr ⟨?grouped, List.forall_mem_cons.mpr ⟨?own, List.forall_mem_cons.mpr
    ⟨?quiet, List.forall_mem_cons.mpr ⟨?single, List.forall_mem_singleton.mpr ?describing⟩⟩⟩⟩
  case grouped =>
    exact made_in_audited 4 11 false [.tag (paramOf 10 "Param" true 2 "b"), .tag (paramOf 10 "Param" true 3 "c")] _
      (bundled 11 (by decide)) rfl
  case own => exact made_in_audited 5 16 false [.constant (.string "z")] _ own rfl
  case quiet => exact made_in_audited 6 18 false [] _ quiet rfl
  case single => exact made_in_audited 7 10 false [.constant (.string "a")] _ (bundled 10 (by decide)) rfl
  case describing => exact made_in_audited 8 8 false [.constant (.string "text")] _ (bundled 8 (by decide)) rfl

def derivedRecord : ClassRecord where
  name := "Derived"
  qualifiedName := "Derived"
  module := "m"
  bases := [19]
  order := [20, 19, 5, 1, 0]
  metaclass := .abstractBase
  abstractNames := ["execute"]

def derivedWorld : World := (Exec.stack derivedTags (.cls 20) auditedWorld).2

theorem metadata_of_derived :
    Grown (World.initial {}) auditedWorld ∧ auditedWorld.class? 20 = some derivedRecord ∧ derivedRecord.tags = [] ∧
    (∀ tag ∈ derivedTags, Made auditedWorld tag) ∧
    Exec.stack derivedTags (.cls 20) auditedWorld = (.ok (), derivedWorld) ∧
    Reads auditedWorld derivedRecord derivedTags (derivedWorld.command "m.Derived" 20).metadata ∧
    auditedWorld.tagsOf 19 = [auditedTag, deprecatedTag] ∧
    (derivedWorld.command "m.Derived" 20).metadata =
      { description := .constant (.string "text")
        params := [paramOf 10 "Param" true 7 "a", paramOf 10 "Param" true 2 "b", paramOf 10 "Param" true 3 "c"]
        tags := derivedTags } := by
  have found : auditedWorld.class? 20 = some derivedRecord := rfl
  have stacked : Exec.stack derivedTags (.cls 20) auditedWorld = (.ok (), derivedWorld) := pair_of_fst rfl
  exact ⟨audited_grown, found, rfl, derived_tags_made, stacked,
    (metadata_of_stacked auditedWorld audited_grown 20 derivedRecord found rfl derivedTags derived_tags_made
      derivedWorld stacked "m.Derived").1, rfl, rfl⟩

end StubForge
