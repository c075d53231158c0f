import StubForge.Proofs.Runs

set_option autoImplicit false

/-!
Steps that keep an invariant of the state, whether they fail or not, and fail only in ways that are
allowed. Loading libraries, rendering and whole runs are all steps of this kind.
-/

namespace StubForge

section

variable {ε σ α β : Type}

def Keeps (invariant : σ → Prop) (allowed : ε → Prop) (steps : ExceptT ε (StateM σ) α) : Prop :=
  ∀ state, invariant state →
    invariant (steps state).2 ∧ ∀ error, (steps state).1 = .error error → allowed error

variable {invariant : σ → Prop} {allowed : ε → Prop}

theorem keeps_pure (value : α) : Keeps invariant allowed (pure value : ExceptT ε (StateM σ) α) := by
  intro state holds
  refine ⟨holds, ?_⟩
  intro error failed
  cases failed

theorem keeps_throw (error : ε) (fine : allowed error) :
    Keeps invariant allowed (throw error : ExceptT ε (StateM σ) α) := by
  intro state holds
  refine ⟨holds, ?_⟩
  intro other failed
  cases failed
  exact fine

theorem keeps_bind {block : ExceptT ε (StateM σ) α} {next : α → ExceptT ε (StateM σ) β}
    (first : Keeps invariant allowed block) (rest : ∀ value, Keeps invariant allowed (next value)) :
    Keeps invariant allowed (block >>= next) := by
  intro state holds
  rw [bind_run]
  obtain ⟨kept, fine⟩ := first state holds
  cases done : block state with
  | mk result after =>
      rw [done] at kept fine
      cases result with
      | ok value => exact rest value after kept
      | error error => exact ⟨kept, fun other failed => fine other (by cases failed; rfl)⟩

-- What is read from the state meets the invariant.
theorem keeps_read {next : σ → ExceptT ε (StateM σ) β}
    (rest : ∀ now, invariant now → Keeps invariant allowed (next now)) :
    Keeps invariant allowed ((get : ExceptT ε (StateM σ) σ) >>= next) :=
  fun state holds => rest state holds state holds

-- What is read from the state also stands in a relation to all that comes later.
theorem keeps_read_on {next : σ → ExceptT ε (StateM σ) β} (relation : σ → σ → Prop) (here : ∀ now, relation now now)
    (rest : ∀ now, invariant now → Keeps (fun later => invariant later ∧ relation now later) allowed (next now)) :
    Keeps invariant allowed ((get : ExceptT ε (StateM σ) σ) >>= next) := by
  intro state holds
  obtain ⟨⟨kept, -⟩, fine⟩ := rest state holds state ⟨holds, here state⟩
  exact ⟨kept, fine⟩

theorem keeps_and {other : σ → Prop} {steps : ExceptT ε (StateM σ) α} (first : Keeps invariant allowed steps)
    (second : Keeps other allowed steps) : Keeps (fun state => invariant state ∧ other state) allowed steps :=
  fun state holds => ⟨⟨(first state holds.1).1, (second state holds.2).1⟩, (first state holds.1).2⟩

theorem keeps_set (next : σ) (kept : invariant next) :
    Keeps invariant allowed (set next : ExceptT ε (StateM σ) PUnit) := by
  intro state _
  refine ⟨kept, ?_⟩
  intro error failed
  cases failed

theorem keeps_modify (change : σ → σ) (kept : ∀ state, invariant state → invariant (change state)) :
    Keeps invariant allowed (modify change : ExceptT ε (StateM σ) PUnit) := by
  intro state holds
  refine ⟨kept state holds, ?_⟩
  intro error failed
  cases failed

theorem keeps_catch (raised : ε → Prop) {block : ExceptT ε (StateM σ) α} {handle : ε → ExceptT ε (StateM σ) α}
    (first : Keeps invariant raised block) (caught : ∀ error, raised error → Keeps invariant allowed (handle error)) :
    Keeps invariant allowed (tryCatch block handle) := by
  intro state holds
  rw [try_catch_run]
  obtain ⟨kept, fine⟩ := first state holds
  cases done : block state with
  | mk result after =>
      rw [done] at kept fine
      cases result with
      | ok value =>
          refine ⟨kept, ?_⟩
          intro error failed
          cases failed
      | error error => exact caught error (fine error rfl) after kept

theorem keeps_if {condition : Prop} [Decidable condition] {yes no : ExceptT ε (StateM σ) α}
    (left : Keeps invariant allowed yes) (right : Keeps invariant allowed no) :
    Keeps invariant allowed (if condition then yes else no) := by
  split
  · exact left
  · exact right

theorem keeps_each {items : List α} {body : α → ExceptT ε (StateM σ) PUnit}
    (kept : ∀ item, Keeps invariant allowed (body item)) : Keeps invariant allowed (items.forM body) := by
  induction items with
  | nil => exact keeps_pure _
  | cons item rest ih =>
      change Keeps invariant allowed (body item >>= fun _ => rest.forM body)
      exact keeps_bind (kept item) fun _ => ih

theorem keeps_fold {items : List α} {body : β → α → ExceptT ε (StateM σ) β} (first : β)
    (kept : ∀ value item, Keeps invariant allowed (body value item)) :
    Keeps invariant allowed (items.foldlM body first) := by
  induction items generalizing first with
  | nil => exact keeps_pure first
  | cons item rest ih =>
      rw [List.foldlM_cons]
      exact keeps_bind (kept first item) ih

theorem keeps_map_each {items : List α} {body : α → ExceptT ε (StateM σ) β}
    (kept : ∀ item, Keeps invariant allowed (body item)) : Keeps invariant allowed (items.mapM body) := by
  induction items with
  | nil => exact keeps_pure _
  | cons item rest ih =>
      rw [List.mapM_cons]
      exact keeps_bind (kept item) fun _ => keeps_bind ih fun _ => keeps_pure _

end

end StubForge
