import Mathlib.Data.List.Basic
import StubForge.Proofs.Rooted

set_option autoImplicit false

/-!
Making the folders of a path, told from the front: the components are gone through in their order, and what is missing
is made. Of two disks of which one has some of the folders already, both end with the same folders.
-/

namespace StubForge.Disk

@[simp] theorem at_root (disk : Disk) : disk.at? [] = some .folder := rfl

-- Folders follow one another from a place on.
def Chain (disk : Disk) : Place → List String → Prop
  | _, [] => True
  | place, name :: rest =>
      name ≠ ".." ∧ tooLong name = false ∧ disk.at? (place ++ [name]) = some .folder ∧ Chain disk (place ++ [name]) rest

-- `done` names the components that were gone through, and `missing` tells that a folder was made among them: then an
-- error is about the folder that could not be made next, and otherwise about the path.
def lay (path : Path) : Disk → Place → List String → Bool → List String → Except (Errno × Path) Unit × Disk
  | disk, _, _, _, [] => (.ok (), disk)
  | disk, place, done, missing, name :: rest =>
      let next := place ++ [name]
      let blamed := if missing then ⟨path.anchor, done ++ [name]⟩ else path
      if tooLong name then (.error (.nameTooLong, blamed), disk)
      else
        match disk.at? next with
        | none => lay path (disk.set next .folder) next (done ++ [name]) true rest
        | some .folder => lay path disk next (done ++ [name]) missing rest
        | some (.file _) => (.error (if missing || rest.isEmpty then .alreadyExists else .notFolder, blamed), disk)

section

variable {disk : Disk} {place : Place}

theorem follow_chain (parts more : List String) (chain : disk.Chain place parts) :
    disk.follow place (parts ++ more) = disk.follow (place ++ parts) more := by
  induction parts generalizing place with
  | nil => simp
  | cons name rest ih =>
      obtain ⟨down, short, there, others⟩ := chain
      rw [List.cons_append, follow, if_neg down, short]
      simp only [Bool.false_eq_true, if_false, there]
      rw [ih others, List.append_assoc, List.singleton_append]

theorem lay_chain (path : Path) (done : List String) (missing : Bool) (parts more : List String)
    (chain : disk.Chain place parts) :
    lay path disk place done missing (parts ++ more) = lay path disk (place ++ parts) (done ++ parts) missing more := by
  induction parts generalizing place done with
  | nil => simp
  | cons name rest ih =>
      obtain ⟨down, short, there, others⟩ := chain
      rw [List.cons_append, lay]
      simp only [short, Bool.false_eq_true, if_false, there]
      rw [ih _ others]
      simp

theorem at_chain (front more : List String) (there : disk.at? place = some .folder)
    (chain : disk.Chain place (front ++ more)) : disk.at? (place ++ front) = some .folder := by
  induction front generalizing place with
  | nil => simpa using there
  | cons name rest ih =>
      obtain ⟨-, -, next, others⟩ := chain
      simpa using ih next others

theorem at_end_of_chain (parts : List String) (there : disk.at? place = some .folder) (chain : disk.Chain place parts) :
    disk.at? (place ++ parts) = some .folder :=
  at_chain parts [] there (by rwa [List.append_nil])

theorem chain_concat (parts : List String) (name : String) :
    disk.Chain place (parts ++ [name]) ↔ disk.Chain place parts ∧ name ≠ ".." ∧ tooLong name = false ∧
      disk.at? (place ++ parts ++ [name]) = some .folder := by
  induction parts generalizing place with
  | nil => simp [Chain]
  | cons first rest ih => simp [Chain, ih, and_assoc]

-- A path that does not lead up is a chain of folders, up to a component that is none.
theorem chain_or_blocked (disk : Disk) (place : Place) (parts : List String) (plain : ".." ∉ parts) :
    disk.Chain place parts ∨ ∃ before name rest, parts = before ++ name :: rest ∧ disk.Chain place before ∧
      (tooLong name = true ∨ disk.at? (place ++ before ++ [name]) ≠ some .folder) := by
  induction parts generalizing place with
  | nil => exact .inl trivial
  | cons name rest ih =>
      obtain ⟨down, others⟩ : name ≠ ".." ∧ ".." ∉ rest := by
        simpa [eq_comm] using plain
      by_cases free : tooLong name = false ∧ disk.at? (place ++ [name]) = some .folder
      · rcases ih (place ++ [name]) others with chain | ⟨before, next, after, rfl, chain, blocked⟩
        · exact .inl ⟨down, free.1, free.2, chain⟩
        · exact .inr ⟨name :: before, next, after, rfl, ⟨down, free.1, free.2, chain⟩, by simpa using blocked⟩
      · refine .inr ⟨[], name, rest, rfl, trivial, ?_⟩
        rw [List.append_nil, ← Bool.not_eq_false]
        exact not_and_or.mp free

/-! ### What is laid -/

-- What is laid are folders on the way, where nothing was.
theorem lay_at (disk : Disk) (place : Place) (path : Path) (done : List String) (missing : Bool) (parts : List String)
    (other : Place) :
    (lay path disk place done missing parts).2.at? other = disk.at? other ∨
      disk.at? other = none ∧ (lay path disk place done missing parts).2.at? other = some .folder ∧
        ∃ front, front ≠ [] ∧ front <+: parts ∧ other = place ++ front := by
  induction parts generalizing disk place done missing with
  | nil => exact .inl rfl
  | cons name rest ih =>
      rw [lay]
      split
      · exact .inl rfl
      · have deeper {first : Disk} {flag : Bool} :
            (lay path first (place ++ [name]) (done ++ [name]) flag rest).2.at? other = first.at? other ∨
              first.at? other = none ∧
                (lay path first (place ++ [name]) (done ++ [name]) flag rest).2.at? other = some .folder ∧
                ∃ front, front ≠ [] ∧ front <+: name :: rest ∧ other = place ++ front := by
          rcases ih first (place ++ [name]) (done ++ [name]) flag with kept | ⟨free, made, front, -, leads, rfl⟩
          · exact .inl kept
          · exact .inr ⟨free, made, name :: front, by simp, by simpa using leads, by simp⟩
        split
        · rename_i free
          by_cases inner : other = []
          · subst inner
            exact .inl rfl
          · have set := at_set disk (place ++ [name]) other .folder inner
            by_cases here : place ++ [name] = other
            · rw [if_pos here] at set
              refine .inr ⟨here ▸ free, ?_, [name], by simp, by simp, here.symm⟩
              rcases @deeper (disk.set (place ++ [name]) .folder) true with kept | ⟨-, made, -⟩
              · rw [kept, set]
              · exact made
            · rw [if_neg here] at set
              rw [← set]
              exact deeper
        · exact deeper
        · exact .inl rfl

theorem lay_keeps_folder (disk : Disk) (place : Place) (path : Path) (done : List String) (missing : Bool)
    (parts : List String) (other : Place) (there : disk.at? other = some .folder) :
    (lay path disk place done missing parts).2.at? other = some .folder := by
  rcases lay_at disk place path done missing parts other with kept | ⟨free, -⟩
  · rw [kept, there]
  · rw [there] at free
    cases free

-- By induction on the components: where all of them are laid, they are a chain of folders.
theorem chain_of_lay (path : Path) (done : List String) (missing : Bool) (parts : List String) (laid : Disk)
    (plain : ".." ∉ parts) (made : lay path disk place done missing parts = (.ok (), laid)) :
    laid.Chain place parts := by
  induction parts generalizing disk place done missing with
  | nil => trivial
  | cons name rest ih =>
      obtain ⟨down, others⟩ : name ≠ ".." ∧ ".." ∉ rest := by
        simpa [eq_comm] using plain
      rw [lay] at made
      split at made
      · cases made
      · rename_i short
        have deeper {first : Disk} {flag : Bool} (there : first.at? (place ++ [name]) = some .folder)
            (made : lay path first (place ++ [name]) (done ++ [name]) flag rest = (.ok (), laid)) :
            laid.Chain place (name :: rest) := by
          have kept := lay_keeps_folder first (place ++ [name]) path (done ++ [name]) flag rest (place ++ [name]) there
          rw [made] at kept
          exact ⟨down, Bool.eq_false_iff.mpr short, kept, ih _ _ others made⟩
        split at made
        · exact deeper (by rw [at_set _ _ _ _ (by simp), if_pos rfl]) made
        · rename_i there
          exact deeper there made
        · cases made

-- Once a folder was made, the path no longer matters.
theorem lay_missing_append (path other : Path) (anchor : path.anchor = other.anchor) (done parts more : List String) :
    lay path disk place done true (parts ++ more) =
      match lay other disk place done true parts with
      | (.ok (), laid) => lay path laid (place ++ parts) (done ++ parts) true more
      | (.error failure, laid) => (.error failure, laid) := by
  induction parts generalizing disk place done with
  | nil => simp [lay]
  | cons name rest ih =>
      rw [List.cons_append, lay, lay]
      split
      · simp [anchor]
      · split
        · rw [ih]
          simp
        · rw [ih]
          simp
        · simp [anchor]

/-! ### Two disks -/

-- Two disks after what was done to both: at a place they hold the same, or what they held before.
def SameOrKept (before before' after after' : Disk) : Prop :=
  ∀ place, after.at? place = after'.at? place ∨
    after.at? place = before.at? place ∧ after'.at? place = before'.at? place

theorem same_or_kept_refl (disk other : Disk) : SameOrKept disk other disk other := fun _ => .inr ⟨rfl, rfl⟩

theorem same_or_kept_trans {first first' middle middle' last last' : Disk}
    (before : SameOrKept first first' middle middle') (after : SameOrKept middle middle' last last') :
    SameOrKept first first' last last' := by
  intro place
  rcases after place with same | ⟨left, right⟩
  · exact .inl same
  · rw [left, right]
    exact before place

theorem same_or_kept_set (disk other : Disk) (place : Place) (entry : Entry) :
    SameOrKept disk other (disk.set place entry) (other.set place entry) := by
  intro seen
  by_cases inner : seen = []
  · subst inner
    exact .inl rfl
  · rw [at_set _ _ _ _ inner, at_set _ _ _ _ inner]
    split
    · exact .inl rfl
    · exact .inr ⟨rfl, rfl⟩

theorem same_or_kept_set_other (disk other : Disk) (place : Place) (entry : Entry)
    (there : disk.at? place = some entry) : SameOrKept disk other disk (other.set place entry) := by
  intro seen
  by_cases inner : seen = []
  · subst inner
    exact .inl rfl
  · rw [at_set _ _ _ _ inner]
    split
    · rename_i same
      exact .inl (same ▸ there)
    · exact .inr ⟨rfl, rfl⟩

-- Laying depends on what lies on the way only.
theorem lay_same (disk other : Disk) (place : Place) (path : Path) (done : List String) (missing : Bool)
    (parts : List String) (alike : ∀ front, front <+: parts → disk.at? (place ++ front) = other.at? (place ++ front)) :
    (lay path disk place done missing parts).1 = (lay path other place done missing parts).1 ∧
      SameOrKept disk other (lay path disk place done missing parts).2 (lay path other place done missing parts).2 := by
  induction parts generalizing disk other place done missing with
  | nil => exact ⟨rfl, same_or_kept_refl _ _⟩
  | cons name rest ih =>
      have here := alike [name] (by simp)
      have deeper (front : List String) (leads : front <+: rest) :
          disk.at? (place ++ [name] ++ front) = other.at? (place ++ [name] ++ front) := by
        simpa using alike (name :: front) (by simpa using leads)
      rw [lay, lay, here]
      split
      · exact ⟨rfl, same_or_kept_refl _ _⟩
      · split
        · obtain ⟨same, changed⟩ := ih (disk.set (place ++ [name]) .folder) (other.set (place ++ [name]) .folder)
            (place ++ [name]) (done ++ [name]) true fun front leads => by
              rw [at_set _ _ _ _ (by simp), at_set _ _ _ _ (by simp), deeper front leads]
          exact ⟨same, same_or_kept_trans (same_or_kept_set disk other _ _) changed⟩
        · exact ih disk other (place ++ [name]) (done ++ [name]) missing deeper
        · exact ⟨rfl, same_or_kept_refl _ _⟩

-- One of two disks may have folders where the other has nothing.
def Fuller (disk other : Disk) (place : Place) : Prop :=
  disk.at? place = other.at? place ∨ disk.at? place = some .folder ∧ other.at? place = none

-- The same, or an overlong name on both sides, whatever path it is told of.
def SameFault (first second : Except (Errno × Path) Unit) : Prop :=
  first = second ∨ ∃ path other, first = .error (.nameTooLong, path) ∧ second = .error (.nameTooLong, other)

-- What was done to one disk, coming from `first` to `last`, was done to another.
def Overlaid (first last before after : Disk) : Prop :=
  ∀ place, last.at? place = first.at? place ∧ after.at? place = before.at? place ∨
    last.at? place ≠ first.at? place ∧ after.at? place = last.at? place

-- By induction on the components. Where a folder was missing on one side only, nothing lies below it on that side, so
-- that nothing is in the way there.
theorem lay_fuller (disk other : Disk) (place : Place) (path : Path) (done : List String) (missing missing' : Bool)
    (parts : List String) (rooted : other.Rooted) (there : other.at? place = some .folder)
    (fuller : ∀ front, front <+: parts → Fuller disk other (place ++ front)) (behind : missing = true → missing' = true)
    (hollow : missing' = true → ∀ front, front ≠ [] → other.at? (place ++ front) = none) :
    SameFault (lay path disk place done missing parts).1 (lay path other place done missing' parts).1 ∧
      SameOrKept disk other (lay path disk place done missing parts).2
        (lay path other place done missing' parts).2 := by
  induction parts generalizing disk other place done missing missing' with
  | nil => exact ⟨.inl rfl, same_or_kept_refl _ _⟩
  | cons name rest ih =>
      have deeper (front : List String) (leads : front <+: rest) : Fuller disk other (place ++ [name] ++ front) := by
        simpa using fuller (name :: front) (by simpa using leads)
      rw [lay, lay]
      by_cases long : tooLong name = true
      · simp only [long, if_true]
        exact ⟨.inr ⟨_, _, rfl, rfl⟩, same_or_kept_refl _ _⟩
      · rw [if_neg long, if_neg long]
        -- Where the other side has nothing yet, its folder is made, and both go on from a folder.
        have made (first : Disk) (flag : Bool) (free : other.at? (place ++ [name]) = none)
            (kept : ∀ front, front ≠ [] → first.at? (place ++ [name] ++ front) = disk.at? (place ++ [name] ++ front))
            (folder : first.at? (place ++ [name]) = some .folder) :=
          ih first (other.set (place ++ [name]) .folder) (place ++ [name]) (done ++ [name]) flag true
            (rooted_set_folder rooted place name there) (by rw [at_set _ _ _ _ (by simp), if_pos rfl])
            (by
              intro front leads
              by_cases inner : front = []
              · subst inner
                left
                rw [List.append_nil, folder, at_set _ _ _ _ (by simp), if_pos rfl]
              · rw [Fuller, at_set _ _ _ _ (by simp), if_neg (by simpa using inner), kept front inner]
                exact deeper front leads)
            (fun _ => rfl)
            (by
              intro _ front inner
              rw [at_set _ _ _ _ (by simp), if_neg (by simpa using inner)]
              exact empty_below rooted _ free front inner)
        rcases fuller [name] (by simp) with same | ⟨left, right⟩
        · rw [same]
          cases found : other.at? (place ++ [name]) with
          | none =>
              obtain ⟨fault, changed⟩ := made (disk.set (place ++ [name]) .folder) true found
                (fun front inner => by rw [at_set _ _ _ _ (by simp), if_neg (by simpa using inner)])
                (by rw [at_set _ _ _ _ (by simp), if_pos rfl])
              exact ⟨fault, same_or_kept_trans (same_or_kept_set disk other _ _) changed⟩
          | some entry =>
              cases entry with
              | folder =>
                  refine ih disk other (place ++ [name]) (done ++ [name]) missing missing' rooted found deeper behind ?_
                  intro flag front inner
                  simpa using hollow flag (name :: front) (by simp)
              | file content =>
                  have clear' : missing' = false := by
                    rw [Bool.eq_false_iff]
                    intro flag
                    rw [hollow flag [name] (by simp)] at found
                    cases found
                  have clear : missing = false := by
                    rw [Bool.eq_false_iff]
                    exact fun flag => by simp [behind flag] at clear'
                  subst clear clear'
                  exact ⟨.inl rfl, same_or_kept_refl _ _⟩
        · obtain ⟨fault, changed⟩ := made disk missing right (fun _ _ => rfl) left
          rw [left, right]
          exact ⟨fault, same_or_kept_trans (same_or_kept_set_other disk other _ _ left) changed⟩

-- What changes on the other disk becomes the same on this one, and what is kept there is kept here.
theorem lay_overlaid (disk other : Disk) (place : Place) (path : Path) (parts : List String) (rooted : other.Rooted)
    (there : other.at? place = some .folder) (fuller : ∀ front, front <+: parts → Fuller disk other (place ++ front)) :
    SameFault (lay path disk place [] false parts).1 (lay path other place [] false parts).1 ∧
      Overlaid other (lay path other place [] false parts).2 disk (lay path disk place [] false parts).2 := by
  obtain ⟨fault, changed⟩ := lay_fuller disk other place path [] false false parts rooted there fuller id nofun
  refine ⟨fault, fun seen => ?_⟩
  rcases changed seen with same | ⟨kept, kept'⟩
  · by_cases moved : (lay path other place [] false parts).2.at? seen = other.at? seen
    · refine .inl ⟨moved, ?_⟩
      rcases lay_at disk place path [] false parts seen with kept | ⟨free, made, front, -, leads, rfl⟩
      · exact kept
      · rcases fuller front leads with alike | ⟨folder, -⟩
        · rw [same, moved, alike]
        · rw [free] at folder
          cases folder
    · exact .inr ⟨moved, same⟩
  · exact .inl ⟨kept', kept⟩

end

/-! ### Making the folders of a path -/

section

variable {disk : Disk} {directory place : Place} {path : Path}

theorem make_folder_chain (front : List String) (name : String) (begins : start directory path = place)
    (parts : path.parts = front ++ [name]) (down : name ≠ "..") (there : disk.at? place = some .folder)
    (chain : disk.Chain place front) :
    disk.makeFolder directory path =
      if tooLong name then .error .nameTooLong
      else if (disk.at? (place ++ front ++ [name])).isSome then .error .alreadyExists
      else .ok (disk.set (place ++ front ++ [name]) .folder) := by
  have followed := follow_chain front [] chain
  rw [List.append_nil, follow] at followed
  have slot : disk.slotOf directory path =
      if tooLong name then .error .nameTooLong else .ok (some (place ++ front, name)) := by
    unfold slotOf
    rw [parts, List.getLast?_concat, List.dropLast_concat, begins, followed]
    split
    · rename_i nothing
      cases nothing
    · rename_i up
      exact absurd (Option.some.inj up) down
    · rename_i last _ same
      cases same
      simp [bind, Except.bind, at_end_of_chain front there chain]
  rw [makeFolder, slot]
  by_cases long : tooLong name = true
  · simp [long, bind, Except.bind]
  · cases at_name : disk.at? (place ++ front ++ [name]) <;> simp [long, bind, Except.bind, at_name, -List.append_assoc]

theorem make_folder_of_chain (begins : start directory path = place) (there : disk.at? place = some .folder)
    (chain : disk.Chain place path.parts) : disk.makeFolder directory path = .error .alreadyExists := by
  rcases List.eq_nil_or_concat path.parts with none | ⟨front, name, parts⟩
  · simp [makeFolder, slotOf, none, bind, Except.bind]
  · rw [parts, List.concat_eq_append, chain_concat] at chain
    obtain ⟨above, down, short, last⟩ := chain
    rw [make_folder_chain front name begins (by rw [parts, List.concat_eq_append]) down there above, short, last]
    rfl

theorem is_folder_chain (begins : start directory path = place) (free : path.hasNul = false)
    (there : disk.at? place = some .folder) (chain : disk.Chain place path.parts) :
    disk.isFolder directory path = .ok true := by
  have followed := follow_chain path.parts [] chain
  rw [List.append_nil, follow] at followed
  simp [isFolder, ask, free, find, locate, begins, followed, at_end_of_chain path.parts there chain, bind, Except.bind]

theorem not_folder_of_blocked (front : List String) (name : String) (rest : List String)
    (begins : start directory path = place) (parts : path.parts = front ++ name :: rest) (down : name ≠ "..")
    (chain : disk.Chain place front)
    (blocked : tooLong name = true ∨ disk.at? (place ++ front ++ [name]) ≠ some .folder) :
    disk.isFolder directory path ≠ .ok true := by
  intro held
  rw [isFolder, ask] at held
  split at held
  · cases held
  · rw [find, locate, begins, parts, follow_chain front _ chain, follow, if_neg down] at held
    by_cases long : tooLong name = true
    · simp [long, bind, Except.bind] at held
    · have other := blocked.resolve_left long
      cases at_name : disk.at? (place ++ front ++ [name]) with
      | none => simp [long, at_name, bind, Except.bind, -List.append_assoc] at held
      | some entry =>
          cases entry with
          | folder => exact absurd at_name other
          | file content => cases rest <;> simp [long, at_name, bind, Except.bind, -List.append_assoc] at held

-- A folder below a component that is in the way cannot be made.
theorem make_folder_blocked (front : List String) (name : String) (middle : List String) (last : String)
    (begins : start directory path = place) (parts : path.parts = front ++ name :: (middle ++ [last]))
    (down : name ≠ "..") (below : last ≠ "..") (chain : disk.Chain place front)
    (blocked : tooLong name = true ∨ disk.at? (place ++ front ++ [name]) ≠ some .folder) :
    disk.makeFolder directory path =
      .error (if tooLong name then .nameTooLong
        else if (disk.at? (place ++ front ++ [name])).isSome then .notFolder else .noEntry) := by
  have slot : disk.slotOf directory path = .error (if tooLong name then .nameTooLong
      else if (disk.at? (place ++ front ++ [name])).isSome then .notFolder else .noEntry) := by
    have split_last : path.parts = (front ++ name :: middle) ++ [last] := by simp [parts]
    unfold slotOf
    rw [split_last, List.getLast?_concat, List.dropLast_concat, begins, follow_chain front _ chain, follow, if_neg down]
    split
    · rename_i nothing
      cases nothing
    · rename_i up
      exact absurd (Option.some.inj up) below
    · rename_i final _ same
      cases same
      by_cases long : tooLong name = true
      · simp [long, bind, Except.bind]
      · have other := blocked.resolve_left long
        cases at_name : disk.at? (place ++ front ++ [name]) with
        | none => simp [long, at_name, bind, Except.bind, -List.append_assoc]
        | some entry =>
            cases entry with
            | folder => exact absurd at_name other
            | file content => cases middle <;> simp [long, at_name, bind, Except.bind, -List.append_assoc]
  rw [makeFolder, slot]
  rfl

theorem ensure_folder_refused (errno : Errno) (refused : disk.makeFolder directory path = .error errno)
    (present : errno ≠ .noEntry) (other : disk.isFolder directory path ≠ .ok true) :
    disk.ensureFolder directory path = .error (errno, path) := by
  rw [ensureFolder, refused]
  dsimp only
  split
  · contradiction
  · contradiction
  · rfl

-- A component that is too long, or a file, is in the way wherever it stands.
theorem make_folder_refused (front : List String) (name : String) (rest : List String)
    (begins : start directory path = place) (parts : path.parts = front ++ name :: rest) (plain : ".." ∉ path.parts)
    (there : disk.at? place = some .folder) (chain : disk.Chain place front)
    (blocked : tooLong name = true ∨ ∃ content, disk.at? (place ++ front ++ [name]) = some (.file content)) :
    disk.makeFolder directory path =
      .error (if tooLong name then .nameTooLong else if rest.isEmpty then .alreadyExists else .notFolder) := by
  have down : name ≠ ".." := by
    rintro rfl
    exact plain (by simp [parts])
  rcases List.eq_nil_or_concat rest with rfl | ⟨middle, last, rfl⟩
  · rw [make_folder_chain front name begins parts down there chain]
    rcases blocked with long | ⟨content, file⟩
    · simp [long]
    · rw [file]
      split <;> rfl
  · rw [List.concat_eq_append] at parts ⊢
    have below : last ≠ ".." := by
      rintro rfl
      exact plain (by simp [parts])
    rw [make_folder_blocked front name middle last begins parts down below chain
      (blocked.imp_right fun ⟨content, file⟩ => by rw [file]; simp)]
    rcases blocked with long | ⟨content, file⟩
    · simp [long]
    · rw [file]
      simp

-- What making the last folder comes to when those above it are there.
theorem ensure_folder_lays (front : List String) (name : String) (begins : start directory path = place)
    (free : path.hasNul = false) (parts : path.parts = front ++ [name]) (down : name ≠ "..")
    (there : disk.at? place = some .folder) (chain : disk.Chain place front) :
    lay path disk (place ++ front) front true [name] =
      match disk.ensureFolder directory path with
      | .ok made => (.ok (), made)
      | .error failure => (.error failure, disk) := by
  have made := make_folder_chain front name begins parts down there chain
  have whole : Path.mk path.anchor (front ++ [name]) = path := by rw [← parts]
  rw [lay, whole]
  by_cases long : tooLong name = true
  · rw [if_pos long] at made
    rw [ensure_folder_refused _ made (by simp)
      (not_folder_of_blocked front name [] begins parts down chain (.inl long))]
    simp [long]
  · rw [if_neg long] at made
    rw [if_neg long]
    cases at_name : disk.at? (place ++ front ++ [name]) with
    | none =>
        rw [at_name] at made
        simp [ensureFolder, made, lay]
    | some entry =>
        rw [at_name] at made
        cases entry with
        | folder =>
            have known : disk.isFolder directory path = .ok true := by
              refine is_folder_chain begins free there ?_
              rw [parts]
              exact (chain_concat front name).mpr ⟨chain, down, Bool.eq_false_iff.mpr long, at_name⟩
            simp [ensureFolder, made, known, lay]
        | file content =>
            have other := not_folder_of_blocked front name [] begins parts down chain (.inr (by rw [at_name]; simp))
            rw [ensure_folder_refused _ made (by simp) other]
            rfl

theorem ensure_from_refused (levels : Nat) (errno : Errno) (refused : disk.makeFolder directory path = .error errno)
    (present : errno ≠ .noEntry) (other : disk.isFolder directory path ≠ .ok true) :
    disk.ensureFoldersFrom (levels + 1) directory path = (.error (errno, path), disk) := by
  rw [ensureFoldersFrom, refused]
  cases errno with
  | noEntry => contradiction
  | alreadyExists | notFolder | isFolder | nameTooLong =>
      dsimp only
      split
      · contradiction
      · rfl

-- A folder that another is missing above is made after it.
theorem ensure_from_missing (levels : Nat) (upper : List String) (last : String) (begins : start directory path = place)
    (plain : ".." ∉ upper) (free : path.hasNul = false) (parts : path.parts = upper ++ [last]) (down : last ≠ "..")
    (there : disk.at? place = some .folder) (missing : disk.makeFolder directory path = .error .noEntry)
    (above : disk.ensureFoldersFrom levels directory path.parent = lay path.parent disk place [] false upper) :
    disk.ensureFoldersFrom (levels + 1) directory path =
      match lay path.parent disk place [] false upper with
      | (.ok (), laid) => lay path laid (place ++ upper) upper true [last]
      | (.error failure, laid) => (.error failure, laid) := by
  have inner : path.parts.isEmpty = false := by simp [parts]
  rw [ensureFoldersFrom, missing, above]
  simp only [inner, Bool.false_eq_true, if_false]
  have kept := lay_keeps_folder disk place path.parent [] false upper place there
  cases made : lay path.parent disk place [] false upper with
  | mk result laid =>
      rw [made] at kept
      cases result with
      | error failure => rfl
      | ok done =>
          have chain := chain_of_lay path.parent [] false upper laid plain made
          exact (ensure_folder_lays upper last begins free parts down kept chain).symm

theorem parent_has_nul (free : path.hasNul = false) : path.parent.hasNul = false := by
  simp only [Path.hasNul, List.any_eq_false] at free ⊢
  exact fun part inside => free part (List.dropLast_subset _ inside)

-- By induction on the levels: making the folders from the last one upwards comes to laying them from the front.
theorem ensure_folders_from_lays (levels : Nat) (begins : start directory path = place) (plain : ".." ∉ path.parts)
    (free : path.hasNul = false) (there : disk.at? place = some .folder) (enough : path.parts.length < levels) :
    disk.ensureFoldersFrom levels directory path = lay path disk place [] false path.parts := by
  induction levels generalizing path with
  | zero => cases enough
  | succ levels ih =>
      rcases chain_or_blocked disk place path.parts plain with chain | ⟨front, name, rest, parts, chain, blocked⟩
      · have laid := lay_chain path [] false path.parts [] chain
        rw [List.append_nil, lay] at laid
        have known := is_folder_chain begins free there chain
        rw [laid, ensureFoldersFrom, make_folder_of_chain begins there chain]
        simp [known]
      · have down : name ≠ ".." := by
          rintro rfl
          exact plain (by simp [parts])
        have other := not_folder_of_blocked front name rest begins parts down chain blocked
        have laid := lay_chain path [] false front (name :: rest) chain
        rw [← parts] at laid
        rw [laid, List.nil_append, lay]
        by_cases refused : tooLong name = true ∨ ∃ content, disk.at? (place ++ front ++ [name]) = some (.file content)
        · have made := make_folder_refused front name rest begins parts plain there chain refused
          rw [ensure_from_refused levels _ made (by split <;> [simp; split <;> simp]) other]
          rcases refused with long | ⟨content, file⟩
          · simp [long]
          · rw [file]
            split <;> simp
        · obtain ⟨short, noFile⟩ := not_or.mp refused
          have at_name : disk.at? (place ++ front ++ [name]) = none := by
            cases found : disk.at? (place ++ front ++ [name]) with
            | none => rfl
            | some entry =>
                cases entry with
                | folder => exact absurd found (blocked.resolve_left short)
                | file content => exact absurd ⟨content, found⟩ noFile
          rw [if_neg short, at_name]
          rcases List.eq_nil_or_concat rest with rfl | ⟨middle, last, rfl⟩
          · rw [ensureFoldersFrom, make_folder_chain front name begins parts down there chain, if_neg short, at_name]
            rfl
          · rw [List.concat_eq_append] at parts ⊢
            have below : last ≠ ".." := by
              rintro rfl
              exact plain (by simp [parts])
            have missing := make_folder_blocked front name middle last begins parts down below chain blocked
            rw [if_neg short, at_name] at missing
            -- For the folder above the same component is the first that is missing.
            have whole : path.parts = (front ++ name :: middle) ++ [last] := by simp [parts]
            have upper : path.parent.parts = front ++ name :: middle := by
              rw [Path.parent, whole, List.dropLast_concat]
            have fewer : ".." ∉ path.parent.parts := fun inside => plain (List.dropLast_subset _ inside)
            have shorter : path.parent.parts.length < levels := by
              rw [upper]
              rw [whole] at enough
              simp only [List.length_append, List.length_cons, List.length_nil] at enough ⊢
              omega
            have step := @ih path.parent begins fewer (parent_has_nul free) shorter
            rw [upper] at step fewer
            rw [ensure_from_missing levels _ last begins fewer free whole below there missing step,
              lay_chain path.parent [] false front (name :: middle) chain, List.nil_append, lay, if_neg short, at_name]
            dsimp only
            rw [lay_missing_append path path.parent rfl (front ++ [name]) middle [last]]
            simp

theorem ensure_folders_lays (begins : start directory path = place) (plain : ".." ∉ path.parts)
    (free : path.hasNul = false) (there : disk.at? place = some .folder) :
    disk.ensureFolders directory path = lay path disk place [] false path.parts :=
  ensure_folders_from_lays _ begins plain free there (Nat.lt_succ_self _)

end

end StubForge.Disk
