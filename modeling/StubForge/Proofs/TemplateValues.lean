import StubForge.Template.Operation

set_option autoImplicit false

/-!
What looking at template values can come to. None of it fails with a failure of the program's own: those are
left to the calls that templates make.
-/

namespace StubForge.Template

section

variable {α β : Type}

def Foreign (result : Except Trouble α) : Prop := ∀ failure, result ≠ .error (.failure failure)

@[simp] theorem foreign_ok (value : α) : Foreign (.ok value) := nofun

@[simp] theorem foreign_pure (value : α) : Foreign (pure value : Except Trouble α) := nofun

@[simp] theorem foreign_complaint (text : String) : Foreign (.error (.complaint text) : Except Trouble α) := nofun

@[simp] theorem foreign_mishap (mishap : Mishap) : Foreign (.error (.mishap mishap) : Except Trouble α) := nofun

@[simp] theorem foreign_type (text : String) : Foreign (.error (.type text) : Except Trouble α) := nofun

theorem foreign_bind {result : Except Trouble α} {next : α → Except Trouble β} (first : Foreign result)
    (rest : ∀ value, Foreign (next value)) : Foreign (result >>= next) := by
  cases result with
  | ok value => exact rest value
  | error trouble =>
      intro failure failed
      cases failed
      exact first failure rfl

theorem foreign_map {result : Except Trouble α} (change : α → β) (first : Foreign result) :
    Foreign (result.map change) := by
  cases result with
  | ok value => exact foreign_ok _
  | error trouble =>
      intro failure failed
      cases failed
      exact first failure rfl

theorem foreign_map_each {items : List α} {read : α → Except Trouble β} (each : ∀ item, Foreign (read item)) :
    Foreign (items.mapM read) := by
  induction items with
  | nil => exact foreign_pure []
  | cons item rest ih =>
      rw [List.mapM_cons]
      exact foreign_bind (each item) fun _ => foreign_bind ih fun _ => foreign_pure _

end

namespace Value

section

variable (scene : Scene)

theorem member_foreign (value : Value) (name : String) : Foreign (value.member scene name) := by
  cases value <;> simp [member]

theorem item_foreign (value key : Value) : Foreign (value.item scene key) := by
  unfold item
  split
  · exact foreign_complaint _
  · exact foreign_complaint _
  · split
    · exact foreign_ok _
    · split
      · exact foreign_ok _
      · exact foreign_ok _

theorem is_true_foreign (value : Value) : Foreign (value.isTrue scene) := by
  cases value <;> simp [isTrue]

theorem plain_foreign (value : Value) : Foreign (value.plain scene) := by
  cases value <;> simp [plain]

theorem iterate_foreign (value : Value) : Foreign (value.iterate scene) := by
  cases value <;> simp [iterate]

theorem length_of_foreign (value : Value) : Foreign (value.lengthOf scene) := by
  unfold lengthOf
  split <;> try simp
  split <;> simp

mutual
theorem to_json_foreign : ∀ value : Value, Foreign value.toJson
  | .list items => foreign_map _ (to_items_foreign items)
  | .tuple items => foreign_map _ (to_items_foreign items)
  | .dictionary entries => foreign_map _ (to_members_foreign entries)
  | .null | .bool _ | .int _ | .float _ | .text _ => foreign_ok _
  | .undefined _ | .stream .. | .path _ | .node _ | .command _ | .metadata _ | .tag _ | .generator | .configuration
  | .forest | .fragment .. | .method .. | .loop .. => foreign_type _
termination_by structural value => value
theorem to_items_foreign : ∀ items : List Value, Foreign (toItems items)
  | [] => foreign_ok _
  | item :: rest => foreign_bind (to_json_foreign item) fun _ => foreign_bind (to_items_foreign rest) fun _ => foreign_pure _
termination_by structural items => items
theorem to_members_foreign : ∀ entries : List (Value × Value), Foreign (toMembers entries)
  | [] => foreign_ok _
  | (key, value) :: rest => by
      rw [toMembers]
      split
      · exact foreign_type _
      · exact foreign_bind (to_json_foreign value) fun _ => foreign_bind (to_members_foreign rest) fun _ => foreign_pure _
termination_by structural entries => entries
end

theorem int_result_foreign (op : BinaryOp) (m n : Int) : Foreign (intResult op m n) := by
  cases op <;> simp only [intResult] <;> try split
  all_goals simp [divisionByZero, unsupported]

theorem float_result_foreign (op : BinaryOp) (x y : Real64) : Foreign (floatResult op x y) := by
  cases op <;> simp only [floatResult] <;> try split
  all_goals simp [divisionByZero, unsupported]

theorem binary_foreign (op : BinaryOp) (a b : Value) : Foreign (binary op a b) := by
  unfold binary
  split
  · exact foreign_complaint _
  · exact foreign_complaint _
  · split
    · exact int_result_foreign op _ _
    · split
      · exact float_result_foreign op _ _
      · split <;> simp [cannotJoin, unsupported]

theorem signed_foreign (sign : String) (negative : Bool) (value : Value) : Foreign (signed sign negative value) := by
  unfold signed
  split
  · exact foreign_complaint _
  · exact foreign_ok _
  · split
    · exact foreign_ok _
    · exact foreign_type _

theorem ordered_foreign (symbol : String) (a b : Value) (accepts : Ordering → Bool) :
    Foreign (ordered symbol a b accepts) := by
  unfold ordered
  split
  · exact foreign_ok _
  · exact foreign_type _

theorem contains_item_foreign (value : Value) (items : List Value) : Foreign (containsItem value items) := by
  unfold containsItem
  split <;> simp

theorem is_member_foreign (value container : Value) : Foreign (isMember scene value container) := by
  unfold isMember
  split <;> try simp
  split
  · exact contains_item_foreign _ _
  · exact foreign_type _

theorem relate_foreign (relation : Relation) (a b : Value) : Foreign (relate scene relation a b) := by
  unfold relate
  split
  · exact is_member_foreign scene a b
  · exact foreign_map _ (is_member_foreign scene a b)
  · split
    · exact foreign_complaint _
    · exact foreign_complaint _
    · split <;> first | exact foreign_ok _ | exact ordered_foreign _ _ _ _

theorem bound_foreign (callee : String) (parameters : List (String × Bool)) (args : List Value)
    (named : List (String × Value)) : Foreign (bound callee parameters args named) := by
  unfold bound
  split
  · exact foreign_ok _
  · exact foreign_type _

theorem join_texts_foreign (separator : String) (items : List Value) : Foreign (joinTexts scene separator items) :=
  foreign_bind (foreign_map_each (plain_foreign scene)) fun _ => foreign_pure _

theorem defaulted_foreign (value : Value) (args : List Value) (named : List (String × Value)) :
    Foreign (applyFilter.defaulted scene value args named) := by
  unfold applyFilter.defaulted
  refine foreign_bind (bound_foreign _ _ _ _) fun found => foreign_bind (is_true_foreign scene _) fun boolean => ?_
  split
  · exact foreign_pure _
  · refine foreign_bind (is_true_foreign scene _) fun holds => ?_
    split
    · exact foreign_pure _
    · exact foreign_pure _

theorem replaced_foreign (value : Value) (args : List Value) (named : List (String × Value)) :
    Foreign (applyFilter scene "replace" value args named) := by
  change Foreign (bound _ _ _ _ >>= _)
  refine foreign_bind (bound_foreign _ _ _ _) fun found => ?_
  split
  · exact foreign_bind (plain_foreign scene _) fun _ => foreign_bind (plain_foreign scene _) fun _ =>
      foreign_bind (plain_foreign scene _) fun _ => foreign_pure _
  · exact foreign_pure _

theorem apply_filter_foreign (filter : String) (value : Value) (args : List Value) (named : List (String × Value)) :
    Foreign (value.applyFilter scene filter args named) := by
  have iterated {α : Type} (next : List Value → Except Trouble α) (each : ∀ items, Foreign (next items)) :
      Foreign (value.iterate scene >>= next) := foreign_bind (iterate_foreign scene value) each
  have written (next : String → Except Trouble Value) (each : ∀ s, Foreign (next s)) :
      Foreign (value.plain scene >>= next) := foreign_bind (plain_foreign scene value) each
  have counted : Foreign (do return Value.int (← value.lengthOf scene)) :=
    foreign_bind (length_of_foreign scene value) fun _ => foreign_pure _
  unfold applyFilter
  split
  · exact foreign_bind (to_json_foreign value) fun _ => foreign_pure _
  · exact replaced_foreign scene value args named
  · refine foreign_bind (bound_foreign _ _ _ _) fun found => foreign_bind (plain_foreign scene _) fun separator => ?_
    exact iterated _ fun items => join_texts_foreign scene separator items
  · exact counted
  · exact counted
  · exact defaulted_foreign scene value args named
  · exact defaulted_foreign scene value args named
  · exact iterated _ fun _ => foreign_pure _
  · exact iterated _ fun _ => foreign_pure _
  · exact written _ fun _ => foreign_pure _
  · exact iterated _ fun _ => foreign_pure _
  · exact written _ fun _ => foreign_pure _
  · exact written _ fun _ => foreign_pure _
  · exact written _ fun _ => foreign_pure _
  · exact foreign_complaint _

theorem apply_test_foreign (test : String) (value : Value) (args : List Value) :
    Foreign (value.applyTest scene test args) := by
  unfold applyTest
  split <;> try exact foreign_ok _
  · split
    · exact foreign_complaint _
    · exact foreign_ok _
  · exact is_member_foreign scene value _
  · repeat' split
    all_goals first | exact relate_foreign scene _ _ _ | exact foreign_complaint _
  · exact foreign_complaint _

theorem need_text_foreign (name : String) (value : Value) : Foreign (needText name value) := by
  cases value <;> simp [needText]

theorem trimmed_foreign (s : String) (args : List Value) (trim : (Char → Bool) → List Char → List Char) :
    Foreign (trimmed s args trim) := by
  unfold trimmed
  split <;> simp

theorem text_method_foreign (s name : String) (args : List Value) : Foreign (textMethod scene s name args) := by
  have needed (name : String) (value : Value) (next : String → Except Trouble Value)
      (each : ∀ s, Foreign (next s)) : Foreign (needText name value >>= next) :=
    foreign_bind (need_text_foreign name value) each
  unfold textMethod
  split
  · exact foreign_pure _
  · exact trimmed_foreign _ _ _
  · exact trimmed_foreign _ _ _
  · exact trimmed_foreign _ _ _
  · exact foreign_pure _
  · exact foreign_pure _
  · exact foreign_pure _
  · exact foreign_pure _
  · refine needed _ _ _ fun separator => ?_
    split
    · exact foreign_mishap _
    · exact foreign_pure _
  · exact needed _ _ _ fun _ => needed _ _ _ fun _ => foreign_pure _
  · exact needed _ _ _ fun _ => foreign_pure _
  · exact needed _ _ _ fun _ => foreign_pure _
  · exact foreign_bind (iterate_foreign scene _) fun _ =>
      foreign_bind (foreign_map_each (need_text_foreign _)) fun _ => foreign_pure _
  · refine needed _ _ _ fun part => ?_
    split
    · exact foreign_pure _
    · exact foreign_pure _
  · refine needed _ _ _ fun part => ?_
    split
    · exact foreign_pure _
    · split
      · exact foreign_pure _
      · exact foreign_pure _
  · exact foreign_type _

theorem call_method_foreign (receiver : Value) (name : String) (args : List Value) (named : List (String × Value)) :
    Foreign (callMethod scene receiver name args named) := by
  unfold callMethod
  split
  · exact text_method_foreign scene _ _ _
  · exact foreign_pure _
  · exact foreign_pure _
  · exact foreign_pure _
  · exact foreign_pure _
  · exact foreign_pure _
  · exact foreign_type _
  · exact foreign_bind (bound_foreign _ _ _ _) fun _ => foreign_pure _
  · exact foreign_bind (bound_foreign _ _ _ _) fun _ => foreign_pure _
  · refine foreign_bind (bound_foreign _ _ _ _) fun found => ?_
    split
    · exact foreign_pure _
    · split
      · exact foreign_pure _
      · exact foreign_complaint _
    · exact foreign_pure _
  · split
    · exact foreign_pure _
    · exact foreign_pure _
    · exact foreign_type _
  · exact foreign_type _

theorem parts_foreign (value : Value) (count : Nat) : Foreign (parts scene value count) := by
  unfold parts
  split
  · split
    · exact foreign_mishap _
    · split
      · exact foreign_mishap _
      · exact foreign_ok _
  · exact foreign_complaint _
  · exact foreign_type _

mutual
theorem bind_foreign : ∀ (target : Target) (value : Value), Foreign (bind scene target value)
  | .name _, _ => foreign_ok _
  | .tuple targets, value => foreign_bind (parts_foreign scene value targets.length) (bind_all_foreign targets)
termination_by structural target => target
theorem bind_all_foreign : ∀ (targets : List Target) (values : List Value), Foreign (bindAll scene targets values)
  | [], _ => foreign_ok _
  | _ :: _, [] => foreign_ok _
  | target :: targets, value :: values =>
      foreign_bind (bind_foreign target value) fun _ => foreign_bind (bind_all_foreign targets values) fun _ =>
        foreign_pure _
termination_by structural targets => targets
end

end

end Value

end StubForge.Template
