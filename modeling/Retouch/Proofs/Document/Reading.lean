/-! Steps of a reading that succeed. -/
namespace Retouch.Document

variable {σ ε α β : Type}

/-- A step of a reading gives a value and goes from one state to another. -/
def Gives (step : StateT σ (Except ε) α) (s : σ) (a : α) (t : σ) : Prop := step.run s = .ok (a, t)

namespace Gives

theorem pure (a : α) (s : σ) : Gives (Pure.pure a : StateT σ (Except ε) α) s a s := rfl

theorem get (s : σ) : Gives (MonadState.get : StateT σ (Except ε) σ) s s s := rfl

theorem modify (f : σ → σ) (s : σ) : Gives (modify f : StateT σ (Except ε) PUnit) s ⟨⟩ (f s) := rfl

theorem bind {first : StateT σ (Except ε) α} {next : α → StateT σ (Except ε) β} {s t u : σ} {a : α}
    {b : β} (gives : Gives first s a t) (continues : Gives (next a) t b u) :
    Gives (first >>= next) s b u := by
  unfold Gives at *
  rw [StateT.run_bind, gives]
  exact continues

end Gives

end Retouch.Document
