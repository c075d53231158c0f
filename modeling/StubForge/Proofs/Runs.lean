import StubForge.Session

set_option autoImplicit false

/-!
What the steps of a run come to: each gives a result and the session it leaves.
-/

namespace StubForge.Run

variable {α β : Type} (session : Session)

@[simp] theorem pure_run (value : α) : (pure value : Run α) session = (.ok value, session) := rfl

@[simp] theorem throw_run (error : Error) : (throw error : Run α) session = (.error error, session) := rfl

@[simp] theorem raise_run (kind message : String) :
    (raise kind message : Run α) session = (.error (.raised kind message), session) := rfl

@[simp] theorem get_run : (get : Run Session) session = (.ok session, session) := rfl

@[simp] theorem modify_run (change : Session → Session) :
    (modify change : Run PUnit) session = (.ok ⟨⟩, change session) := rfl

@[simp] theorem say_run (level : Level) (message : String) :
    say level message session =
      (.ok ⟨⟩, { session with records := session.records ++ [{ level, message }] }) := rfl

end StubForge.Run

namespace StubForge

-- Steps of all kinds of runs are put together alike.
section

variable {ε σ α β : Type} {state : σ}

theorem bind_run (block : ExceptT ε (StateM σ) α) (next : α → ExceptT ε (StateM σ) β) : (block >>= next) state =
    match block state with
    | (.ok value, after) => next value after
    | (.error error, after) => (.error error, after) := by
  change StateT.bind block (ExceptT.bindCont next) state = _
  rw [StateT.bind]
  change (match block state with | (result, after) => ExceptT.bindCont next result after) = _
  obtain ⟨result, after⟩ := block state
  cases result <;> rfl

theorem try_catch_run (block : ExceptT ε (StateM σ) α) (handle : ε → ExceptT ε (StateM σ) α) :
    (tryCatch block handle) state =
      match block state with
      | (.ok value, after) => (.ok value, after)
      | (.error error, after) => handle error after := by
  change StateT.bind block
    (fun result => match result with
      | .ok value => (pure value : ExceptT ε (StateM σ) α)
      | .error error => handle error) state = _
  rw [StateT.bind]
  change (match block state with
    | (result, after) => (match result with
        | .ok value => (pure value : ExceptT ε (StateM σ) α)
        | .error error => handle error) after) = _
  obtain ⟨result, after⟩ := block state
  cases result <;> rfl

theorem bind_ok {block : ExceptT ε (StateM σ) α} {value : α} {after : σ} (done : block state = (.ok value, after))
    (next : α → ExceptT ε (StateM σ) β) : (block >>= next) state = next value after := by
  rw [bind_run, done]

theorem bind_error {block : ExceptT ε (StateM σ) α} {error : ε} {after : σ}
    (failed : block state = (.error error, after)) (next : α → ExceptT ε (StateM σ) β) :
    (block >>= next) state = (.error error, after) := by
  rw [bind_run, failed]

-- What succeeds as a whole succeeded in its first part.
theorem ok_of_bind {block : ExceptT ε (StateM σ) α} {next : α → ExceptT ε (StateM σ) β} {value : β} {after : σ}
    (done : (block >>= next) state = (.ok value, after)) :
    ∃ first middle, block state = (.ok first, middle) ∧ next first middle = (.ok value, after) := by
  rw [bind_run] at done
  cases known : block state with
  | mk result middle =>
      rw [known] at done
      cases result with
      | ok first => exact ⟨first, middle, rfl, done⟩
      | error error => cases done

end

/-! ### Results that are computed -/

theorem pair_of_fst {α β : Type} {pair : α × β} {first : α} (same : pair.1 = first) : pair = (first, pair.2) := by
  rw [← same]

-- Tests of what was computed. They have names of their own: where a test is a match, its branches would have to be the
-- same as they are written, or everything is computed once more.
def okHolds {ε α : Type} (holds : α → Bool) : Except ε α → Bool
  | .ok value => holds value
  | .error _ => false

def errorHolds {ε α : Type} (holds : ε → Bool) : Except ε α → Bool
  | .ok _ => false
  | .error error => holds error

def runHolds {ε α σ : Type} (holds : α → σ → Bool) (run : Except ε α × σ) : Bool :=
  okHolds (fun value => holds value run.2) run.1

theorem ok_of_computed {ε α : Type} (result : Except ε α) (holds : α → Bool)
    (computed : okHolds holds result = true) : ∃ value, result = .ok value ∧ holds value = true := by
  cases result with
  | error error => cases computed
  | ok value => exact ⟨value, rfl, computed⟩

theorem error_of_computed {ε α : Type} (result : Except ε α) (holds : ε → Bool)
    (computed : errorHolds holds result = true) : ∃ error, result = .error error ∧ holds error = true := by
  cases result with
  | error error => exact ⟨error, rfl, computed⟩
  | ok value => cases computed

theorem run_of_computed {ε α σ : Type} (run : Except ε α × σ) (holds : α → σ → Bool)
    (computed : runHolds holds run = true) :
    ∃ value after, run = (.ok value, after) ∧ holds value after = true := by
  obtain ⟨value, ok, held⟩ := ok_of_computed run.1 _ computed
  exact ⟨value, run.2, pair_of_fst ok, held⟩

-- Whether a mishap is of a kind, with a message and nothing else.
def Mishap.isPlain (mishap : Mishap) (kind message : String) : Bool :=
  mishap.kind == kind && mishap.message == message && mishap.details.isEmpty

theorem Mishap.eq_of_is_plain {mishap : Mishap} {kind message : String} (plain : mishap.isPlain kind message = true) :
    mishap = { kind, message } := by
  obtain ⟨given, text, details⟩ := mishap
  simp only [isPlain, Bool.and_eq_true, beq_iff_eq, List.isEmpty_iff] at plain
  obtain ⟨⟨rfl, rfl⟩, rfl⟩ := plain
  rfl

def Error.isPlain (kind message : String) : Error → Bool
  | .failure _ => false
  | .mishap own => own.isPlain kind message

theorem raised_of_computed {α : Type} (result : Except Error α) (kind message : String)
    (computed : errorHolds (Error.isPlain kind message) result = true) : result = .error (.raised kind message) := by
  obtain ⟨error, rfl, plain⟩ := error_of_computed result _ computed
  cases error with
  | failure failure => cases plain
  | mishap own => rw [Mishap.eq_of_is_plain plain, Error.raised]

end StubForge
