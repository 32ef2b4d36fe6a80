/-!
Outcomes of actions: how a sequence of two succeeds, how it fails, and the state that it leaves either way.
-/

namespace ModuleBundler

theorem except_bind_eq_ok {ε α β : Type} {first : Except ε α} {second : α → Except ε β} {answer : β} :
    (first >>= second) = .ok answer ↔ ∃ found, first = .ok found ∧ second found = .ok answer := by
  change Except.bind first second = _ ↔ _
  unfold Except.bind
  cases first <;> simp

variable {ε σ α β : Type} {first : EStateM ε σ α} {second : α → EStateM ε σ β} {start final : σ}

theorem bind_eq_ok {answer : β} :
    (first >>= second) start = .ok answer final ↔
      ∃ found middle, first start = .ok found middle ∧ second found middle = .ok answer final := by
  change EStateM.bind first second start = _ ↔ _
  unfold EStateM.bind
  cases first start with
  | ok found middle => simp [and_assoc]
  | error error middle => simp

theorem bind_eq_error {error : ε} :
    (first >>= second) start = .error error final ↔
      first start = .error error final ∨
        ∃ found middle, first start = .ok found middle ∧ second found middle = .error error final := by
  change EStateM.bind first second start = _ ↔ _
  unfold EStateM.bind
  cases first start with
  | ok found middle => simp [and_assoc]
  | error error middle => simp

theorem pure_eq_ok {found answer : α} :
    (pure found : EStateM ε σ α) start = .ok answer final ↔ found = answer ∧ start = final := by
  change EStateM.Result.ok found start = .ok answer final ↔ _
  simp

theorem bind_congr_start {other : EStateM ε σ α} {begun : σ} (same : first start = other begun)
    (second : α → EStateM ε σ β) : (first >>= second) start = (other >>= second) begun := by
  change EStateM.bind first second start = EStateM.bind other second begun
  unfold EStateM.bind
  rw [same]

theorem throw_apply (error : ε) : (throw error : EStateM ε σ α) start = .error error start :=
  rfl

section Loop

variable {perform : α → EStateM ε σ PUnit} {one : α} {back : List α}

theorem forM_cons_eq_ok : (one :: back).forM perform start = .ok () final ↔
    ∃ middle, perform one start = .ok () middle ∧ back.forM perform middle = .ok () final := by
  change (perform one >>= fun _ => back.forM perform) start = _ ↔ _
  rw [bind_eq_ok]
  exact ⟨fun ⟨_, middle, first, rest⟩ => ⟨middle, first, rest⟩,
    fun ⟨middle, first, rest⟩ => ⟨(), middle, first, rest⟩⟩

theorem exists_of_forM_eq_error {error : ε} {all : List α}
    (failed : all.forM perform start = .error error final) :
    ∃ front one back middle, all = front ++ one :: back ∧ front.forM perform start = .ok () middle ∧
      perform one middle = .error error final := by
  induction all generalizing start with
  | nil => cases failed
  | cons first rest ih =>
    change (perform first >>= fun _ => rest.forM perform) start = _ at failed
    rcases bind_eq_error.1 failed with here | ⟨_, next, done, later⟩
    · exact ⟨[], first, rest, start, rfl, rfl, here⟩
    · obtain ⟨front, one, back, middle, rfl, passed, failing⟩ := ih later
      exact ⟨first :: front, one, back, middle, rfl, forM_cons_eq_ok.2 ⟨next, done, passed⟩, failing⟩

end Loop

/-- An action does not fail with an error. -/
def Spares (action : EStateM ε σ α) (error : ε) : Prop :=
  ∀ start final, action start ≠ .error error final

namespace Spares

variable {error : ε}

theorem pure (found : α) : Spares (Pure.pure found : EStateM ε σ α) error := by
  intro start final failed
  cases failed

theorem throw {other : ε} (different : other ≠ error) :
    Spares (MonadExcept.throw other : EStateM ε σ α) error := by
  intro start final failed
  cases failed
  exact different rfl

theorem bind (spares : Spares first error) (continues : ∀ found, Spares (second found) error) :
    Spares (first >>= second) error := by
  intro start final failed
  rcases bind_eq_error.1 failed with here | ⟨found, middle, -, later⟩
  · exact spares start final here
  · exact continues found middle final later

end Spares

/-- What an action answers or fails with. -/
def outcome : EStateM.Result ε σ α → Except ε α
  | .ok found _ => .ok found
  | .error error _ => .error error

def Steady (action : EStateM ε σ α) : Prop :=
  ∀ start other, outcome (action start) = outcome (action other)

namespace Steady

theorem pure (found : α) : Steady (Pure.pure found : EStateM ε σ α) :=
  fun _ _ => rfl

theorem throw (error : ε) : Steady (MonadExcept.throw error : EStateM ε σ α) :=
  fun _ _ => rfl

theorem bind (steady : Steady first) (continues : ∀ found, Steady (second found)) :
    Steady (first >>= second) := by
  intro start other
  have same := steady start other
  change outcome (EStateM.bind first second start) = outcome (EStateM.bind first second other)
  unfold EStateM.bind
  cases left : first start with
  | ok found middle =>
    cases right : first other with
    | ok met between =>
      rw [left, right] at same
      cases same
      exact continues found middle between
    | error error between =>
      rw [left, right] at same
      cases same
  | error error middle =>
    cases right : first other with
    | ok met between =>
      rw [left, right] at same
      cases same
    | error fault between =>
      rw [left, right] at same
      cases same
      rfl

theorem eq_ok {action : EStateM ε σ α} (steady : Steady action) {found : α}
    (succeeded : action start = .ok found final) (other : σ) :
    ∃ last, action other = .ok found last := by
  have same := steady start other
  rw [succeeded] at same
  cases ended : action other with
  | ok met last =>
    rw [ended] at same
    cases same
    exact ⟨last, rfl⟩
  | error error last =>
    rw [ended] at same
    cases same

end Steady

/-- The state that an action leaves, whether it succeeds or not. -/
def stateAfter : EStateM.Result ε σ α → σ
  | .ok _ final | .error _ final => final

theorem stateAfter_ite {condition : Prop} [Decidable condition] (found : α) (error : ε) (final : σ) :
    stateAfter (if condition then .ok found final else .error error final) = final := by
  split <;> rfl

end ModuleBundler
