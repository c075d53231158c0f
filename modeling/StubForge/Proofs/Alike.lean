import StubForge.Proofs.Runs

set_option autoImplicit false

/-!
Two runs that differ in a state in which nothing depends on the difference: they have the same result, and the states
they leave are related as those that they began in.
-/

namespace StubForge

section

variable {ε σ α β : Type}

def Alike (related : σ → σ → Prop) (allowed : ε → Prop) (steps : ExceptT ε (StateM σ) α) : Prop :=
  ∀ state other, related state other →
    (steps state).1 = (steps other).1 ∧ related (steps state).2 (steps other).2 ∧
      ∀ error, (steps state).1 = .error error → allowed error

variable {related : σ → σ → Prop} {allowed : ε → Prop}

theorem alike_pure (value : α) : Alike related allowed (pure value : ExceptT ε (StateM σ) α) := by
  intro state other begins
  refine ⟨rfl, begins, ?_⟩
  intro error failed
  cases failed

theorem alike_throw (error : ε) (fine : allowed error) :
    Alike related allowed (throw error : ExceptT ε (StateM σ) α) := by
  intro state other begins
  refine ⟨rfl, begins, ?_⟩
  intro raised failed
  cases failed
  exact fine

theorem alike_bind {block : ExceptT ε (StateM σ) α} {next : α → ExceptT ε (StateM σ) β}
    (first : Alike related allowed block) (rest : ∀ value, Alike related allowed (next value)) :
    Alike related allowed (block >>= next) := by
  intro state other begins
  rw [bind_run, bind_run]
  obtain ⟨same, still, fine⟩ := first state other begins
  cases left : block state with
  | mk result after =>
      cases right : block other with
      | mk result' after' =>
          rw [left, right] at same still
          rw [left] at fine
          cases same
          cases result with
          | ok value => exact rest value after after' still
          | error error =>
              refine ⟨rfl, still, ?_⟩
              intro raised failed
              cases failed
              exact fine error rfl

-- What is read from the states may differ, as long as the rest does not depend on it.
theorem alike_read {next : σ → ExceptT ε (StateM σ) β}
    (same : ∀ state other, related state other → next state = next other)
    (rest : ∀ state other, related state other → Alike related allowed (next state)) :
    Alike related allowed ((get : ExceptT ε (StateM σ) σ) >>= next) := by
  intro state other begins
  have runs := rest state other begins state other begins
  change (next state state).1 = (next other other).1 ∧ related (next state state).2 (next other other).2 ∧ _
  rw [← same state other begins]
  exact runs

theorem alike_modify (change : σ → σ)
    (still : ∀ state other, related state other → related (change state) (change other)) :
    Alike related allowed (modify change : ExceptT ε (StateM σ) PUnit) := by
  intro state other begins
  refine ⟨rfl, still state other begins, ?_⟩
  intro error failed
  cases failed

theorem alike_catch (raised : ε → Prop) {block : ExceptT ε (StateM σ) α} {handle : ε → ExceptT ε (StateM σ) α}
    (first : Alike related raised block) (caught : ∀ error, raised error → Alike related allowed (handle error)) :
    Alike related allowed (tryCatch block handle) := by
  intro state other begins
  rw [try_catch_run, try_catch_run]
  obtain ⟨same, still, fine⟩ := first state other begins
  cases left : block state with
  | mk result after =>
      cases right : block other with
      | mk result' after' =>
          rw [left, right] at same still
          rw [left] at fine
          cases same
          cases result with
          | ok value =>
              refine ⟨rfl, still, ?_⟩
              intro error failed
              cases failed
          | error error => exact caught error (fine error rfl) after after' still

end

end StubForge
