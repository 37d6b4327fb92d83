import GameModule.Game.Request

/-!
# Running activities

What an activity does on a state: one equation per step an activity can begin with, and the
equations of the activities of a game. A call is the only place where the state changes hands, so
each equation shows the calls that are made and what is done after each answer.
-/
namespace GameModule

namespace Activity

variable {σ α : Type}

theorem get_bind (f : σ → Activity σ α) (s : σ) : (get >>= f) s = f s s := rfl

theorem modify_bind (g : σ → σ) (f : Unit → Activity σ α) (s : σ) :
    (modify g >>= f) s = f () (g s) := rfl

theorem argv_bind (n : Int32) (f : String → Activity σ α) (s : σ) :
    (argv n >>= f) s = .call s (.argv n) fun a s => f a s := rfl

end Activity

namespace Game

open Activity

/-- An echoed line is one call, after which the work goes on. -/
theorem trace_bind {σ α : Type} (config : Config) (line : String) (f : Unit → Activity σ α)
    (s : σ) :
    (trace config line >>= f) s =
      if config.traceCalls then .call s (.debugPrint line) fun _ s => f () s else f () s := by
  unfold trace
  split <;> rfl

theorem reject_bind {α : Type} (cause : SessionError) (f : Unit → Activity Game α) (g : Game) :
    (reject cause >>= f) g =
      .call g (.debugPrint ("ServerGame: rejected, " ++ cause.message ++ "\n")) fun _ g =>
        .note (.rejected cause) (f () g) := rfl

theorem closing_eq (g : Game) :
    closing g = if g.config.traceCalls then
        .call g (.debugPrint (traceLine "Shutdown" "")) fun _ g =>
          .note (.shutDown g.frame) (.done g ())
      else .note (.shutDown g.frame) (.done g ()) := by
  rw [closing, get_bind, trace_bind]
  rfl

end Game

end GameModule
