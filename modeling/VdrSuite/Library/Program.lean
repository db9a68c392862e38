import Mathlib.Logic.Basic

/-! Programs over effects whose replies come from outside, and what holds of all their executions. -/

set_option autoImplicit false

namespace VdrSuite.Library

/-- A program performs effects one after another; each continues with the reply it gets. -/
inductive Program (Effect : Type) (Reply : Effect → Type) (Result : Type) : Type where
  | done (result : Result)
  | perform (effect : Effect) (next : Reply effect → Program Effect Reply Result)

namespace Program

variable {Effect : Type} {Reply : Effect → Type} {First Second : Type}

def bind : Program Effect Reply First → (First → Program Effect Reply Second) →
    Program Effect Reply Second
  | .done result, rest => rest result
  | .perform effect next, rest => .perform effect fun reply => bind (next reply) rest

instance : Monad (Program Effect Reply) where
  pure := .done
  bind := bind

def request (effect : Effect) : Program Effect Reply (Reply effect) := .perform effect .done

/-! ## What every execution satisfies -/

/-- Every effect that is performed satisfies one predicate, every result that is reached the other,
whatever the replies are. -/
def Always (performed : Effect → Prop) (reached : First → Prop) :
    Program Effect Reply First → Prop
  | .done result => reached result
  | .perform effect next => performed effect ∧ ∀ reply, Always performed reached (next reply)

variable {performed : Effect → Prop} {reached : First → Prop}

theorem Always.mono {program : Program Effect Reply First} {weaker : Effect → Prop}
    {conclusion : First → Prop} (always : program.Always performed reached)
    (effects : ∀ effect, performed effect → weaker effect)
    (results : ∀ result, reached result → conclusion result) :
    program.Always weaker conclusion := by
  induction program with
  | done result => exact results result always
  | perform effect next ih =>
    exact ⟨effects effect always.1, fun reply => ih reply (always.2 reply)⟩

/-- A sequence is safe when its first part is, and its rest after every result of the first. -/
theorem always_bind {program : Program Effect Reply First}
    {rest : First → Program Effect Reply Second} {conclusion : Second → Prop}
    (first : program.Always performed reached)
    (second : ∀ result, reached result → (rest result).Always performed conclusion) :
    (program >>= rest).Always performed conclusion := by
  induction program with
  | done result => exact second result first
  | perform effect next ih => exact ⟨first.1, fun reply => ih reply (first.2 reply)⟩

/-! ## Executions against given replies -/

end Program

end VdrSuite.Library
