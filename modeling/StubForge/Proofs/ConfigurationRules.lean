import Mathlib.Order.WellFounded
import StubForge.Proofs.Reordering

set_option autoImplicit false

/-!
The rules that configurations must keep, each given the configurations before it. Checking them accepts the lists that
keep every rule, and otherwise reports the first rule that the first offender breaks, whatever comes after it.
-/

namespace StubForge

namespace Codec

-- A lookup answers or finds nothing, unless a character ends the name before its end.
def Answers (encoding : String) : Prop := '\x00' ∉ encoding.toList

instance (encoding : String) : Decidable (Answers encoding) :=
  inferInstanceAs (Decidable ('\x00' ∉ encoding.toList))

def Found (encoding : String) : Prop := Answers encoding ∧ (lookup? encoding).isSome

end Codec

namespace Configuration

/-! ### The rules -/

inductive Rule where
  | named
  | distinct
  | schemed
  | packaged
  | encoded
  deriving DecidableEq, Repr

namespace Rule

-- The order in which the rules are asked after.
def rank : Rule → Nat
  | named => 0
  | distinct => 1
  | schemed => 2
  | packaged => 3
  | encoded => 4

def Kept (before : List Configuration) (config : Configuration) : Rule → Prop
  | named => config.name ≠ ""
  | distinct => ∀ earlier ∈ before, earlier.name ≠ config.name
  | schemed => config.scheme ≠ ""
  | packaged => config.packages ≠ [] ∧ "" ∉ config.packages
  | encoded => ∀ encoding, config.encoding = some encoding → encoding ≠ "" → Codec.Found encoding

def fault (config : Configuration) : Rule → ConfigurationFault
  | named => .noName
  | distinct => .duplicateName config.name
  | schemed => .noScheme config.name
  | packaged => .noPackages config.name
  | encoded => .unknownEncoding (config.encoding.getD "") config.name

end Rule

-- The rules, for a whole list.
structure Lawful (configs : List Configuration) : Prop where
  named : ∀ config ∈ configs, config.name ≠ ""
  distinct : (configs.map (·.name)).Nodup
  schemed : ∀ config ∈ configs, config.scheme ≠ ""
  packaged : ∀ config ∈ configs, config.packages ≠ [] ∧ "" ∉ config.packages
  encoded : ∀ config ∈ configs, ∀ encoding, config.encoding = some encoding → encoding ≠ "" → Codec.Found encoding

-- The first rule that the first offender of a list breaks.
structure Offence (configs before : List Configuration) (config : Configuration) (rest : List Configuration)
    (rule : Rule) : Prop where
  place : configs = before ++ config :: rest
  lawful : Lawful before
  broken : ¬ rule.Kept before config
  first : ∀ other : Rule, other.rank < rule.rank → other.Kept before config

/-! ### One configuration -/

theorem encoding_error (config : Configuration) (encoding : String) (given : config.encoding = some encoding)
    (filled : encoding ≠ "") :
    config.encodingError? = if Codec.Answers encoding then
        if (Codec.lookup? encoding).isSome then none
        else some (.configuration (.unknownEncoding encoding config.name))
      else some (.raised "ValueError" nulText) := by
  rw [encodingError?, given]
  split
  · contradiction
  · rename_i blank
    exact absurd (Option.some.inj blank) filled
  · rename_i known
    cases known
    by_cases ended : '\x00' ∈ encoding.toList
    · simp [Codec.Answers, ended]
    · simp [Codec.Answers, ended]

theorem encoding_error_none (config : Configuration) (before : List Configuration) :
    config.encodingError? = none ↔ Rule.encoded.Kept before config := by
  rw [Rule.Kept]
  cases given : config.encoding with
  | none => simp [encodingError?, given]
  | some encoding =>
      by_cases blank : encoding = ""
      · subst blank
        simp [encodingError?, given]
      · rw [encoding_error config encoding given blank]
        by_cases whole : Codec.Answers encoding
        · simp [whole, blank, Codec.Found, ← Option.isSome_iff_ne_none]
        · simp [whole, blank, Codec.Found]

theorem encoding_error_fault (config : Configuration) (before : List Configuration)
    (answered : ∀ encoding ∈ config.encoding, Codec.Answers encoding) (broken : ¬ Rule.encoded.Kept before config) :
    config.encodingError? = some (.configuration (Rule.encoded.fault config)) := by
  rw [Rule.Kept] at broken
  push Not at broken
  obtain ⟨encoding, given, filled, unknown⟩ := broken
  have whole := answered encoding given
  rw [encoding_error config encoding given filled, if_pos whole,
    if_neg fun known => unknown ⟨whole, known⟩, Rule.fault, given, Option.getD_some]

theorem not_packaged (before : List Configuration) (config : Configuration) :
    (config.packages.isEmpty || config.packages.contains "") = true ↔ ¬ Rule.packaged.Kept before config := by
  simp only [Rule.Kept, Bool.or_eq_true, List.isEmpty_iff, List.contains_iff_mem]
  tauto

theorem mem_names (before : List Configuration) (config : Configuration) :
    (before.map (·.name)).contains config.name = true ↔ ¬ Rule.distinct.Kept before config := by
  simp [Rule.Kept]

theorem every_rule (before : List Configuration) (config : Configuration) :
    (∀ rule : Rule, rule.Kept before config) ↔ Rule.named.Kept before config ∧ Rule.distinct.Kept before config ∧
      Rule.schemed.Kept before config ∧ Rule.packaged.Kept before config ∧ Rule.encoded.Kept before config :=
  ⟨fun kept => ⟨kept _, kept _, kept _, kept _, kept _⟩, fun kept rule => by cases rule <;> simp only [kept]⟩

-- Nothing is wrong with a configuration that keeps every rule.
theorem error_none (before : List Configuration) (config : Configuration) :
    config.error? (before.map (·.name)) = none ↔ ∀ rule : Rule, rule.Kept before config := by
  rw [every_rule, ← encoding_error_none, error?]
  by_cases named : config.name = ""
  · simp [named, Rule.Kept]
  rw [if_neg named]
  by_cases distinct : Rule.distinct.Kept before config
  · rw [if_neg (by rw [mem_names]; exact not_not_intro distinct)]
    by_cases schemed : config.scheme = ""
    · simp [schemed, Rule.Kept]
    rw [if_neg schemed]
    by_cases packaged : Rule.packaged.Kept before config
    · rw [if_neg (by rw [not_packaged]; exact not_not_intro packaged)]
      exact ⟨fun none => ⟨named, distinct, schemed, packaged, none⟩, fun kept => kept.2.2.2.2⟩
    · rw [if_pos ((not_packaged before config).mpr packaged)]
      simp [packaged]
  · rw [if_pos ((mem_names before config).mpr distinct)]
    simp [distinct]

theorem error_of_broken (before : List Configuration) (config : Configuration) (rule : Rule)
    (answered : ∀ encoding ∈ config.encoding, Codec.Answers encoding) (broken : ¬ rule.Kept before config)
    (first : ∀ other : Rule, other.rank < rule.rank → other.Kept before config) :
    config.error? (before.map (·.name)) = some (.configuration (rule.fault config)) := by
  rw [error?]
  cases rule with
  | named => rw [if_pos (not_not.mp broken)]; rfl
  | distinct =>
      have named := first .named (by decide)
      rw [if_neg named, if_pos ((mem_names before config).mpr broken)]
      rfl
  | schemed =>
      have named := first .named (by decide)
      have distinct := first .distinct (by decide)
      rw [if_neg named, if_neg (by rw [mem_names]; exact not_not_intro distinct), if_pos (not_not.mp broken)]
      rfl
  | packaged =>
      have named := first .named (by decide)
      have distinct := first .distinct (by decide)
      have schemed := first .schemed (by decide)
      rw [if_neg named, if_neg (by rw [mem_names]; exact not_not_intro distinct), if_neg schemed,
        if_pos ((not_packaged before config).mpr broken)]
      rfl
  | encoded =>
      have named := first .named (by decide)
      have distinct := first .distinct (by decide)
      have schemed := first .schemed (by decide)
      have packaged := first .packaged (by decide)
      rw [if_neg named, if_neg (by rw [mem_names]; exact not_not_intro distinct), if_neg schemed,
        if_neg (by rw [not_packaged]; exact not_not_intro packaged)]
      exact encoding_error_fault config before answered broken

/-! ### A list of configurations -/

theorem lawful_nil : Lawful [] := ⟨by simp, by simp, by simp, by simp, by simp⟩

theorem lawful_before (before rest : List Configuration) (lawful : Lawful (before ++ rest)) : Lawful before := by
  have within (config : Configuration) (member : config ∈ before) : config ∈ before ++ rest :=
    List.mem_append_left rest member
  constructor
  case named => exact fun config member => lawful.named config (within config member)
  case distinct =>
    have distinct := lawful.distinct
    rw [List.map_append] at distinct
    exact distinct.of_append_left
  case schemed => exact fun config member => lawful.schemed config (within config member)
  case packaged => exact fun config member => lawful.packaged config (within config member)
  case encoded => exact fun config member => lawful.encoded config (within config member)

theorem lawful_append (before : List Configuration) (config : Configuration) :
    Lawful (before ++ [config]) ↔ Lawful before ∧ ∀ rule : Rule, rule.Kept before config := by
  rw [every_rule]
  constructor
  · intro lawful
    have last : config ∈ before ++ [config] := List.mem_append_right before (List.mem_singleton_self config)
    refine ⟨lawful_before before [config] lawful, lawful.named config last, ?_, lawful.schemed config last,
      lawful.packaged config last, lawful.encoded config last⟩
    have distinct := lawful.distinct
    rw [List.map_append, List.map_singleton, List.nodup_append] at distinct
    intro earlier member
    exact distinct.2.2 earlier.name (List.mem_map_of_mem member) config.name (List.mem_singleton_self _)
  · rintro ⟨lawful, named, distinct, schemed, packaged, encoded⟩
    have all {holds : Configuration → Prop} (earlier : ∀ other ∈ before, holds other) (last : holds config)
        (other : Configuration) (member : other ∈ before ++ [config]) : holds other := by
      rcases List.mem_append.mp member with inside | own
      · exact earlier other inside
      · rw [List.mem_singleton.mp own]
        exact last
    refine ⟨all lawful.named named, ?_, all lawful.schemed schemed, all lawful.packaged packaged,
      all lawful.encoded encoded⟩
    rw [List.map_append, List.map_singleton, List.nodup_append]
    refine ⟨lawful.distinct, List.nodup_singleton _, fun name member other own => ?_⟩
    obtain ⟨earlier, inside, rfl⟩ := List.mem_map.mp member
    exact List.mem_singleton.mp own ▸ distinct earlier inside

theorem check_from_lawful (configs : List Configuration) : checkFrom [] configs = .ok () ↔ Lawful configs := by
  have own (config : Configuration) : config.error? [] = none ↔ ∀ rule : Rule, rule.Kept [] config :=
    error_none [] config
  rw [check_from_iff]
  simp only [own, every_rule]
  constructor
  · rintro ⟨kept, distinct, -⟩
    exact ⟨fun config member => (kept config member).1, distinct, fun config member => (kept config member).2.2.1,
      fun config member => (kept config member).2.2.2.1, fun config member => (kept config member).2.2.2.2⟩
  · intro lawful
    refine ⟨fun config member => ⟨lawful.named config member, ?_, lawful.schemed config member,
      lawful.packaged config member, lawful.encoded config member⟩, lawful.distinct, by simp⟩
    exact fun earlier absent => absurd absent List.not_mem_nil

theorem check_from_append (before rest : List Configuration) (seen : List String)
    (checked : checkFrom seen before = .ok ()) :
    checkFrom seen (before ++ rest) = checkFrom (seen ++ before.map (·.name)) rest := by
  induction before generalizing seen with
  | nil => simp
  | cons config before ih =>
      rw [checkFrom] at checked
      split at checked
      · cases checked
      · rename_i faultless
        rw [List.cons_append, checkFrom, faultless]
        dsimp only
        rw [ih _ checked, List.map_cons, List.append_assoc, List.singleton_append]

theorem check_from_offence {configs before : List Configuration} {config : Configuration}
    {rest : List Configuration} {rule : Rule} (offence : Offence configs before config rest rule)
    (answered : ∀ encoding ∈ config.encoding, Codec.Answers encoding) (later : List Configuration) :
    checkFrom [] (before ++ config :: later) = .error (.configuration (rule.fault config)) := by
  have checked : checkFrom [] before = .ok () := (check_from_lawful before).mpr offence.lawful
  rw [check_from_append before _ [] checked, List.nil_append, checkFrom,
    error_of_broken before config rule answered offence.broken offence.first]

-- A list that breaks a rule has a first offender.
theorem offence_of_unlawful (configs : List Configuration) (unlawful : ¬ Lawful configs) :
    ∃ before config rest rule, Offence configs before config rest rule := by
  induction configs using List.reverseRecOn with
  | nil => exact absurd lawful_nil unlawful
  | append_singleton before config ih =>
      by_cases lawful : Lawful before
      · have breaking : ∃ rule : Rule, ¬ rule.Kept before config := by
          by_contra every
          push Not at every
          exact unlawful ((lawful_append before config).mpr ⟨lawful, every⟩)
        obtain ⟨rule, broken, least⟩ := (measure Rule.rank).wf.has_min { rule | ¬ rule.Kept before config } breaking
        exact ⟨before, config, [], rule, rfl, lawful, broken, fun other earlier =>
          not_not.mp fun broken => least other broken earlier⟩
      · obtain ⟨start, offender, rest, rule, offence⟩ := ih lawful
        refine ⟨start, offender, rest ++ [config], rule, ?_, offence.lawful, offence.broken, offence.first⟩
        rw [offence.place, List.append_assoc, List.cons_append]

-- Exactly the consistent lists are accepted. Otherwise there is a first offender, and the first rule it breaks is
-- reported, whatever configurations follow it.
theorem consistent_lists_accepted (configs : List Configuration)
    (answered : ∀ config ∈ configs, ∀ encoding ∈ config.encoding, Codec.Answers encoding) :
    (check configs = .ok () ↔ configs ≠ [] ∧ Lawful configs) ∧
    (configs = [] → check configs = .error (.configuration .noGenerators)) ∧
    (configs ≠ [] → ¬ Lawful configs → ∃ before config rest rule, Offence configs before config rest rule) ∧
    ∀ before config rest rule, Offence configs before config rest rule →
      ∀ later, check (before ++ config :: later) = .error (.configuration (rule.fault config)) := by
  refine ⟨?accepted, ?empty, fun _ => offence_of_unlawful configs, ?reported⟩
  case accepted =>
    cases configs with
    | nil => simp [check]
    | cons config rest => simpa [check] using check_from_lawful (config :: rest)
  case empty => exact fun empty => empty ▸ rfl
  case reported =>
    intro before config rest rule offence later
    have inside : config ∈ configs := offence.place ▸ List.mem_append_right before List.mem_cons_self
    rw [check, if_neg (by simp)]
    exact check_from_offence offence (answered config inside) later

def lawfulWeb : Configuration :=
  { name := "web", scheme := "json", packages := ["shop"], encoding := some "Latin_1" }

-- The second configuration has neither a scheme nor packages, but its name is asked after first.
theorem incomplete_twin_refused :
    check [lawfulWeb] = .ok () ∧
    check [lawfulWeb, { name := "web" }, { encoding := some "none" }] =
      .error (.configuration (.duplicateName "web")) := by
  have lawful : Lawful [lawfulWeb] := by
    refine ⟨by decide, by decide, by decide, by decide, fun config member encoding given _ => ?_⟩
    cases List.mem_singleton.mp member
    cases given
    exact ⟨by decide, by decide +kernel⟩
  constructor
  · exact (consistent_lists_accepted [lawfulWeb] (by simp [lawfulWeb]; decide)).1.mpr ⟨by simp, lawful⟩
  · refine (consistent_lists_accepted [lawfulWeb, { name := "web" }] (by simp [lawfulWeb]; decide)).2.2.2 [lawfulWeb]
      { name := "web" } [] .distinct ⟨rfl, lawful, ?_, ?_⟩ [{ encoding := some "none" }]
    · exact fun distinct => distinct lawfulWeb (List.mem_singleton_self _) rfl
    · intro other earlier
      cases other with
      | named =>
          show "web" ≠ ""
          decide
      | distinct => exact absurd earlier (by decide)
      | schemed => exact absurd earlier (by decide)
      | packaged => exact absurd earlier (by decide)
      | encoded => exact absurd earlier (by decide)

end Configuration

end StubForge
