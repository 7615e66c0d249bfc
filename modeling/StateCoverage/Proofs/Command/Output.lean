import StateCoverage.Command.Run

/-!
What a run writes about its events: which texts reach its streams, and what is left alone.
-/
namespace StateCoverage

namespace LoggingOptions

def loggedTo (destination time : Text) (events : List Event) (logging : LoggingOptions) : Text :=
  events.flatMap fun e => logging.outputs.flatMap fun output =>
    if output.destination = destination then output.written logging.level time [e] else []

theorem loggedTo_append (logging : LoggingOptions) (destination time : Text) (es es' : List Event) :
    logging.loggedTo destination time (es ++ es') =
      logging.loggedTo destination time es ++ logging.loggedTo destination time es' :=
  List.flatMap_append

/-- No event is written to the standard output. -/
def SparesStdout (logging : LoggingOptions) : Prop :=
  ∀ output ∈ logging.outputs, output.destination = text "stdout" →
    output.takesDebug logging.level = false

theorem SparesStdout.loggedTo_eq_nil {logging : LoggingOptions} (h : logging.SparesStdout)
    (time : Text) (events : List Event) : logging.loggedTo (text "stdout") time events = [] := by
  refine List.flatMap_eq_nil_iff.mpr fun e _ => List.flatMap_eq_nil_iff.mpr fun output hmem => ?_
  by_cases hd : output.destination = text "stdout"
  · simp [hd, LogOutput.written, h output hmem hd]
  · simp [hd]

end LoggingOptions

namespace Command

namespace Outcome
variable (logging : LoggingOptions) (time : Text) (events : List Event) (o : Outcome)

theorem foldl_append_view {α β : Type} {view : β → Text} {step : β → α → β} {added : α → Text}
    (h : ∀ b a, view (step b a) = view b ++ added a) (list : List α) (b : β) :
    view (list.foldl step b) = view b ++ list.flatMap added := by
  induction list generalizing b with
  | nil => simp
  | cons a rest ih => rw [List.foldl_cons, ih, h, List.flatMap_cons, List.append_assoc]

/-- One of the two streams that a run writes to, by its name as a destination of events. -/
def IsStream (view : Outcome → Text) (name : Text) : Prop :=
  ∀ destination content o,
    view (o.write destination content) = view o ++ if destination = name then content else []

theorem isStream_stdout : IsStream stdout (text "stdout") := by
  intro destination content o
  unfold write
  split
  · rfl
  · split <;> simp

theorem isStream_stderr : IsStream stderr (text "stderr") := by
  intro destination content o
  unfold write
  split
  · next h =>
    have hne : destination ≠ text "stderr" := h ▸ by decide
    simp [hne]
  · split <;> simp

theorem IsStream.report {view : Outcome → Text} {name : Text} (h : IsStream view name) :
    view (o.report logging time events) = view o ++ logging.loggedTo name time events :=
  foldl_append_view (fun o e => foldl_append_view (fun o (output : LogOutput) =>
    h output.destination (output.written logging.level time [e]) o) logging.outputs o) events o

variable {logging} in
theorem stdout_report (h : logging.SparesStdout) :
    (o.report logging time events).stdout = o.stdout := by
  rw [isStream_stdout.report, h.loggedTo_eq_nil, List.append_nil]

theorem IsStream.openOutputs {view : Outcome → Text} {name : Text} (h : IsStream view name)
    (outputs : List LogOutput) : view (o.openOutputs outputs) = view o := by
  have hopened := foldl_append_view (fun o (output : LogOutput) => h output.destination [] o)
    outputs o
  have hnothing : (outputs.flatMap fun output =>
      if output.destination = name then ([] : Text) else []) = [] :=
    List.flatMap_eq_nil_iff.mpr fun _ _ => ite_self _
  rwa [hnothing, List.append_nil] at hopened

/-- How a run ends: its exit code, and the error that broke it off. -/
def ending (o : Outcome) : Nat × Option Unhandled := (o.exitCode, o.unhandled)

theorem ending_write (destination content : Text) :
    (o.write destination content).ending = o.ending := by
  unfold write
  split
  · rfl
  · split <;> rfl

theorem ending_foldl {α : Type} {step : Outcome → α → Outcome}
    (h : ∀ o a, (step o a).ending = o.ending) (list : List α) :
    (list.foldl step o).ending = o.ending := by
  induction list generalizing o with
  | nil => rfl
  | cons a rest ih => rw [List.foldl_cons, ih, h]

theorem ending_report : (o.report logging time events).ending = o.ending :=
  ending_foldl o (fun o _ => ending_foldl o (fun o _ => ending_write o _ _) _) events

theorem ending_openOutputs (outputs : List LogOutput) :
    (o.openOutputs outputs).ending = o.ending :=
  ending_foldl o (fun o _ => ending_write o _ _) _

structure IsBlank (o : Outcome) : Prop where
  ending : o.ending = (0, none)
  stdout : o.stdout = []
  stderr : o.stderr = []

theorem IsBlank.openOutputs {o : Outcome} (h : o.IsBlank) (outputs : List LogOutput) :
    (o.openOutputs outputs).IsBlank :=
  ⟨(o.ending_openOutputs outputs).trans h.ending,
    (isStream_stdout.openOutputs o outputs).trans h.stdout,
    (isStream_stderr.openOutputs o outputs).trans h.stderr⟩

theorem isBlank_consult (paths : List Text) : (({} : Outcome).consult paths).IsBlank :=
  ⟨rfl, rfl, rfl⟩

end Outcome

end Command

end StateCoverage
