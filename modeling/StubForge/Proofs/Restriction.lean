import StubForge.Proofs.Admission
import StubForge.Proofs.ByName
import StubForge.Proofs.TypeNames

set_option autoImplicit false

/-!
The forest of a configuration beside that of all commands. Commands are chosen by their whole names; what is chosen in one
namespace is everything or nothing, and a namespace stays exactly if a chosen command lies in it or below.
-/

namespace StubForge

namespace Forest

theorem dotted_of_fitting (name : String) (fitting : ¬Name.Misfit name) : '.' ∈ name.toList := by
  by_contra plain
  exact fitting (.inl plain)

-- What a command lies below is its own namespace or lies above that.
theorem below_iff_home (command : Command) (fitting : ¬Name.Misfit command.fullName) (name : String) :
    Name.isBelow command.fullName name = true ↔ command.home = name ∨ Name.isBelow command.home name = true := by
  obtain ⟨whole, plain⟩ := Name.child_parent_last command.fullName (dotted_of_fitting _ fitting)
  have split := Name.is_below_child command.home (Name.last command.fullName) name plain
  rw [Command.home, ← whole] at split
  rw [split, Bool.or_eq_true, beq_iff_eq]
  rfl

theorem in_packages_iff_home (command : Command) (fitting : ¬Name.Misfit command.fullName) (packages : List String) :
    Name.inPackages command.fullName packages = Name.mayContain command.home packages := by
  obtain ⟨whole, plain⟩ := Name.child_parent_last command.fullName (dotted_of_fitting _ fitting)
  have split := Name.in_packages_child command.home (Name.last command.fullName) packages plain
  rwa [Command.home, ← whole] at split

theorem commands_at_of_filled {forest : Forest} {commands : List Command} (filled : Filled forest commands) (name : String) :
    forest.commandsAt name = keepFirst (commands.filter fun command => command.home = name) := by
  by_cases present : name ∈ forest.names
  · obtain ⟨node, bound, rfl⟩ := (forest.mem_names_iff name).mp present
    obtain ⟨slot, member, -, named, own⟩ := forest.slot_of_node node bound
    rw [forest.commands_at_node filled.distinct node bound, own, filled.contents slot member, named]
  · have none : (commands.filter fun command => command.home = name) = [] := by
      rw [List.filter_eq_nil_iff]
      intro command given home
      have housed := filled.housed command given
      rw [of_decide_eq_true home] at housed
      exact present housed
    rw [forest.commands_at_absent filled.distinct name present, none]
    rfl

section

variable {commands : List Command} {forest : Forest} (built : ofCommands commands = .ok forest) (packages : List String)
include built

theorem fitting_of_built (command : Command) (member : command ∈ commands) : ¬Name.Misfit command.fullName :=
  (of_commands_ok_iff commands).mp ⟨forest, built⟩ command member

theorem filter_accepted : ∃ narrow, ofCommands (Command.filter packages commands) = .ok narrow :=
  (of_commands_ok_iff _).mpr fun command member => fitting_of_built built command (List.mem_filter.mp member).1

theorem mem_names_of_built (name : String) : name ∈ forest.names ↔
    ∃ command ∈ commands, Name.isBelow command.fullName name = true := by
  rw [names, (represents_of_commands commands forest built).covers, and_iff_right_iff_imp]
  rintro ⟨command, member, lower⟩ rfl
  obtain ⟨first, more, longer⟩ := (Name.is_below_iff _ _).mp lower
  have short : Name.segments "" = [""] := rfl
  rw [short] at longer
  apply fitting_of_built built command member
  rw [Name.Misfit, longer]
  exact .inr List.mem_cons_self

theorem chosen_below_iff (name : String) :
    (∃ command ∈ Command.filter packages commands, Name.isBelow command.fullName name = true) ↔
      ∃ node < forest.size, (forest.fullName node = name ∨ Name.isBelow (forest.fullName node) name = true) ∧
        ∃ command ∈ forest.commands node, Name.inPackages command.fullName packages = true := by
  have filled := filled_of_commands commands forest built
  constructor
  · rintro ⟨command, chosen, lower⟩
    obtain ⟨given, inside⟩ := List.mem_filter.mp chosen
    obtain ⟨node, bound, named, ⟨kept, own, same⟩, -⟩ := node_of_command filled command given
    refine ⟨node, bound, ?_, kept, own, same ▸ inside⟩
    rw [named]
    exact (below_iff_home command (fitting_of_built built command given) name).mp lower
  · rintro ⟨node, bound, place, kept, own, inside⟩
    obtain ⟨slot, member, -, -, contents⟩ := forest.slot_of_node node bound
    have given := (kept_of_slot filled slot member kept (contents ▸ own)).1
    refine ⟨kept, List.mem_filter.mpr ⟨given, inside⟩, ?_⟩
    rw [below_iff_home kept (fitting_of_built built kept given), home_of_node filled node bound kept own]
    exact place

end

-- The forest of the chosen commands has a namespace if and only if a chosen command lies there or below, with all commands
-- of the namespace if it may contain chosen ones and with none otherwise.
theorem restricted_forest (commands : List Command) (forest : Forest) (built : ofCommands commands = .ok forest)
    (packages : List String) : ∃ narrow, ofCommands (Command.filter packages commands) = .ok narrow ∧
      (∀ name, (narrow.find? name).isSome ↔
        ∃ node < forest.size, (forest.fullName node = name ∨ Name.isBelow (forest.fullName node) name = true) ∧
          ∃ command ∈ forest.commands node, Name.inPackages command.fullName packages = true) ∧
      ∀ name, narrow.commandsAt name = if Name.mayContain name packages then forest.commandsAt name else [] := by
  obtain ⟨narrow, chosen⟩ := filter_accepted built packages
  have filled := filled_of_commands commands forest built
  have filledNarrow := filled_of_commands _ narrow chosen
  refine ⟨narrow, chosen, fun name => ?_, fun name => ?_⟩
  · rw [← chosen_below_iff built packages, ← mem_names_of_built chosen, Option.isSome_iff_exists, mem_names_iff]
    exact exists_congr fun node => narrow.find_iff filledNarrow.distinct name node
  · rw [commands_at_of_filled filledNarrow, commands_at_of_filled filled, Command.filter, List.filter_filter]
    have same : ∀ command ∈ commands, (decide (command.home = name) && Name.inPackages command.fullName packages) =
        (decide (command.home = name) && Name.mayContain name packages) := by
      intro command member
      by_cases home : command.home = name
      · rw [in_packages_iff_home command (fitting_of_built built command member), home]
      · simp [home]
    rw [List.filter_congr same]
    cases Name.mayContain name packages <;> simp [keepFirst]

def mall : List Command :=
  [{ fullName := "shop.cart.Add" }, { fullName := "shopping.Find" }, { fullName := "shop.Open" }, { fullName := "zoo.Feed" },
    { fullName := "shop.cart.till.Pay" }]

theorem mall_restricted : ∃ forest narrow, ofCommands mall = .ok forest ∧
    ofCommands (Command.filter ["shop.cart", "zoo.deep"] mall) = .ok narrow ∧
    narrow.commandsAt "shop.cart" = forest.commandsAt "shop.cart" ∧ narrow.commandsAt "shop" = [] := by
  obtain ⟨forest, built⟩ : ∃ forest, ofCommands mall = .ok forest := ⟨_, rfl⟩
  obtain ⟨narrow, chosen, -, contents⟩ := restricted_forest mall forest built ["shop.cart", "zoo.deep"]
  have inside : Name.mayContain "shop.cart" ["shop.cart", "zoo.deep"] = true := by decide
  have outside : ¬Name.mayContain "shop" ["shop.cart", "zoo.deep"] = true := by decide
  exact ⟨forest, narrow, built, chosen, (contents "shop.cart").trans (if_pos inside),
    (contents "shop").trans (if_neg outside)⟩

end Forest

end StubForge
