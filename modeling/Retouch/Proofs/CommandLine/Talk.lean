import Retouch.CommandLine
import Retouch.Proofs.Files.Workspace

/-! What a session shows.
Steps that talk to the user add outputs to the screen, one behind another, and leave the files
alone. -/
namespace Retouch.CommandLine

def shownText (told : List Output) : Bytes := told.flatMap (·.text)

@[simp] theorem shownText_append (told more : List Output) :
    shownText (told ++ more) = shownText told ++ shownText more := List.flatMap_append

/-- The screen got some outputs, and the files are as they were. -/
structure Said (told : List Output) (s s' : Screen) (w w' : Workspace) : Prop where
  colours : s'.colours = s.colours
  text : s'.text = s.text ++ shownText told
  kept : Kept w w'

namespace Said

theorem refl (s : Screen) (w : Workspace) : Said [] s s w w :=
  ⟨rfl, (List.append_nil _).symm, Kept.refl w⟩

theorem trans {told more : List Output} {s s' s'' : Screen} {w w' w'' : Workspace}
    (first : Said told s s' w w') (second : Said more s' s'' w' w'') :
    Said (told ++ more) s s'' w w'' := by
  refine ⟨second.colours.trans first.colours, ?_, first.kept.trans second.kept⟩
  rw [second.text, first.text, shownText_append, List.append_assoc]

end Said

/-- A step shows these outputs, which depend on whether there are colours, and does nothing else. -/
def Tells (step : Session Unit) (told : Bool → List Output) : Prop :=
  ∀ s w, Said (told s.colours) s ((step.run s).run w).1.2 w ((step.run s).run w).2

namespace Tells

theorem pure : Tells (Pure.pure ()) fun _ => [] := Said.refl

theorem bind {first second : Session Unit} {told more : Bool → List Output}
    (tells : Tells first told) (tells' : Tells second more) :
    Tells (first >>= fun _ => second) fun c => told c ++ more c := by
  intro s w
  have head := tells s w
  have tail := tells' ((first.run s).run w).1.2 ((first.run s).run w).2
  rw [head.colours] at tail
  exact head.trans tail

theorem forIn {α : Type} (xs : List α) {step : α → Session Unit} {told : α → Bool → List Output}
    (tells : ∀ x, Tells (step x) (told x)) :
    Tells (forIn xs PUnit.unit fun x _ => do step x; Pure.pure (ForInStep.yield PUnit.unit))
      fun c => xs.flatMap fun x => told x c := by
  induction xs with
  | nil => exact pure
  | cons x xs ih =>
    rw [List.forIn_cons]
    exact (tells x).bind ih

theorem print (text : Bytes) : Tells (Session.print text) fun _ => [⟨text, []⟩] := by
  intro s w
  exact ⟨rfl, by simp [shownText, Session.print]; rfl, Kept.refl w⟩

theorem records (events : List Event) :
    Tells (do for e in events do Workspace.record e) fun _ => [] := by
  induction events with
  | nil => exact pure
  | cons e events ih =>
    have first : Tells (liftM (Workspace.record e)) fun _ => [] := fun s w =>
      ⟨rfl, (List.append_nil _).symm, Workspace.quiet_record e w⟩
    rw [List.forIn_cons]
    exact first.bind ih

theorem of_text {step : Session Unit} {told more : Bool → List Output} (tells : Tells step told)
    (same : ∀ c, shownText (told c) = shownText (more c)) : Tells step more := by
  intro s w
  obtain ⟨colours, text, kept⟩ := tells s w
  exact ⟨colours, by rw [text, same], kept⟩

theorem emit (o : Output) : Tells (Session.emit o) fun _ => [o] :=
  ((print o.text).bind (records o.events)).of_text fun _ => by simp [shownText]

theorem looking {step : Screen → Session Unit} {told : Bool → List Output}
    (tells : ∀ s w,
      Said (told s.colours) s (((step s).run s).run w).1.2 w (((step s).run s).run w).2) :
    Tells (get >>= step) told := tells

theorem header (message : Bytes) :
    Tells (Session.header message) fun c => [Console.header c message] :=
  looking fun s w => emit (Console.header s.colours message) s w

theorem notice (n : Console.Notice) (message : Bytes) :
    Tells (Session.notice n message) fun c => [Console.notice c n message] :=
  looking fun s w => emit (Console.notice s.colours n message) s w

theorem advance (c : Console) (o : Output) : Tells (Session.advance (c, o)) fun _ => [o] := by
  intro s w
  obtain ⟨colours, text, kept⟩ := emit o { s with console := c } w
  exact ⟨colours, text, kept⟩

theorem startTarget (t : Target) :
    Tells (Session.startTarget t) fun c => [(Console.start.startTarget c t).2] :=
  looking fun s w => advance _ (Console.start.startTarget s.colours t).2 s w

theorem rule (r : RuleOutcome) : Tells (Session.rule r) fun c => [(Console.start.rule c r).2] :=
  looking fun s w => advance _ (Console.start.rule s.colours r).2 s w

theorem endTarget : Tells Session.endTarget fun _ => [] := by
  apply looking
  intro s w
  obtain ⟨colours, text, kept⟩ := advance s.console.endTarget.1 s.console.endTarget.2 s w
  refine ⟨colours, ?_, kept⟩
  have silent : s.console.endTarget.2.text = [] := by
    unfold Console.endTarget
    split <;> rfl
  simpa [shownText, silent] using text

theorem diff (d : Bytes) :
    Tells (Session.diff d) fun c => [Console.newline, Console.diff c d, Console.newline] :=
  (emit Console.newline).bind
    (looking fun s w => ((emit (Console.diff s.colours d)).bind (emit Console.newline)) s w)

end Tells

end Retouch.CommandLine
