import Handoff.Program
import Handoff.Proofs.HandOverTrace

/-!
# The name of the subcommand

Nothing of a call is seen behind it but the arguments that it passes on, and those are seen: two
calls are `Invocation.Indistinguishable` if and only if they pass on the same ones
(`Invocation.indistinguishable_iff`). One name at most is dropped, and only where it stands first
(`Invocation.tail_argv`). `Invocation.indistinguishable_direct` says which calls through a tool are
like direct ones, and `Call.run_dispatched` that the whole program does not tell them apart either.
-/

namespace Handoff

/-- What is dropped comes first, and is the name of the subcommand if it is anything. -/
theorem eq_append_dropSubcommand (args : List Bytes) :
    args = (if args.head? = some (Bytes.ofString subcommand) then [Bytes.ofString subcommand]
      else []) ++ dropSubcommand args := by
  cases args with
  | nil => rfl
  | cons arg args =>
    by_cases harg : arg = Bytes.ofString subcommand
    · simp [dropSubcommand, harg]
    · simp [dropSubcommand, harg]

namespace Invocation

/-- Whether no run tells two calls apart: in the place of one the other leaves every hand-over what
it is, with whatever facility, sink and steps before and after. -/
def Indistinguishable (call other : Invocation) : Prop :=
  ∀ (σ ε : Type) (facility : Facility σ ε) (before after : List (List Bytes)) (sink : Sink)
    (state : σ),
    handOvers facility (before ++ call.forwarded :: after) sink state =
      handOvers facility (before ++ other.forwarded :: after) sink state

variable {call other : Invocation}

theorem indistinguishable_iff :
    call.Indistinguishable other ↔ call.forwarded = other.forwarded := by
  refine ⟨fun h => ?_, fun h σ ε facility before after sink state => by rw [h]⟩
  -- A sink without a limit lets every call of the facility come about.
  have hsink : Sink.unbounded.Advancing := fun _ hsize => nomatch hsize
  have hrun := h _ _ Facility.scripted [] [] Sink.unbounded []
  have hcalls := congrArg (fun done => Event.calls done.events) (List.cons.inj hrun).1
  simp only [handOver_events_of_unlimited hsink rfl] at hcalls
  exact (List.cons.inj hcalls).1

/-- The arguments of a call are what is dropped, and then what is passed on. -/
theorem tail_argv (call : Invocation) :
    call.argv.tail =
      (if call.asSubcommand = true ∧ call.argv[1]? = some (Bytes.ofString subcommand)
        then [Bytes.ofString subcommand] else []) ++ call.forwarded := by
  obtain ⟨argv, asSubcommand⟩ := call
  cases asSubcommand with
  | false => exact (List.nil_append _).symm
  | true =>
    have hdropped := eq_append_dropSubcommand argv.tail
    rw [List.head?_tail] at hdropped
    simpa only [true_and, forwarded, if_true] using hdropped

/-- **Calls through a tool and direct calls.** A tool that puts the name of the subcommand in front
of some arguments is like a direct call with those arguments. The same words in a call through a
tool and in a direct call are told apart if and only if the name stands first; the direct call then
passes on that name in front of what the other passes on. No other name is ever dropped, and without
words nothing is passed on. -/
theorem indistinguishable_direct :
    let name := Bytes.ofString subcommand
    (∀ (program : Bytes) (args : List Bytes),
      Indistinguishable ⟨program :: name :: args, true⟩ ⟨program :: args, false⟩ ∧
      forwarded ⟨program :: name :: args, true⟩ = args ∧
      forwarded ⟨program :: args, false⟩ = args) ∧
    (∀ argv : List Bytes,
      (Indistinguishable ⟨argv, true⟩ ⟨argv, false⟩ ↔ argv[1]? ≠ some name) ∧
      (forwarded ⟨argv, false⟩ = name :: forwarded ⟨argv, true⟩ ↔ argv[1]? = some name)) ∧
    (∀ call : Invocation, call.argv.tail =
      (if call.asSubcommand = true ∧ call.argv[1]? = some name then [name] else []) ++
        call.forwarded) ∧
    ∀ asSubcommand : Bool, forwarded ⟨[], asSubcommand⟩ = [] := by
  intro name
  have hdirect (argv : List Bytes) : forwarded ⟨argv, false⟩ =
      (if argv[1]? = some name then [name] else []) ++ forwarded ⟨argv, true⟩ := by
    rw [forwarded_direct]
    simpa only [true_and] using tail_argv ⟨argv, true⟩
  refine ⟨fun program args => ⟨?_, forwarded_subcommand program args, rfl⟩, fun argv => ?_,
    tail_argv, fun asSubcommand => ?_⟩
  · rw [indistinguishable_iff, forwarded_subcommand]
    rfl
  · rw [indistinguishable_iff, hdirect]
    by_cases hname : argv[1]? = some name
    · simp [hname]
    · simp [hname]
  · cases asSubcommand <;> rfl

end Invocation

namespace Call

variable {ω : Type} {library : Library} {launch : Launcher ω} {call other : Call ω} {tool : Bytes}

/-- The same call through a tool: it says where it is, and puts the name of the subcommand in front
of the arguments. -/
def dispatched (call : Call ω) (tool : Bytes) : Call ω :=
  { call with
    environment := call.environment.assign "CARGO" tool
    argv := call.argv.take 1 ++ Bytes.ofString subcommand :: call.argv.tail }

/-- A run goes by the settings and the arguments, and by whether errors are coloured. -/
theorem run_congr (hsettings : call.settings = other.settings)
    (hforwarded : call.forwarded = other.forwarded)
    (hcolour : call.isColoured library = other.isColoured library)
    (hstreams : call.streams = other.streams) (hworld : call.world = other.world) :
    call.runWith library launch = other.runWith library launch := by
  have hdone : call.handOver launch = other.handOver launch := by
    rw [handOver, handOver, hsettings, hforwarded, hstreams, hworld]
  have hfailure : call.failure library = other.failure library := by
    funext result
    cases result <;> simp only [failure, hcolour]
  simp only [runWith, runUnder, hfailure, hsettings, hdone, hstreams]

theorem value?_dispatched {name : String} (hname : name ≠ "CARGO") :
    (call.dispatched tool).environment.value? name = call.environment.value? name :=
  Environment.value?_assign_of_ne hname

/-- A direct call and the same call through a tool run alike. -/
theorem run_dispatched (h : call.environment.callsSubcommand = false) :
    (call.dispatched tool).runWith library launch = call.runWith library launch := by
  refine run_congr ?_ ?_ ?_ rfl rfl
  · exact Settings.ofLookup_congr
      (Environment.text?_congr (value?_dispatched (by decide)))
      (Environment.text?_congr (value?_dispatched (by decide)))
  · have htool : (call.dispatched tool).environment.callsSubcommand = true := by
      simp [dispatched, Environment.callsSubcommand, Environment.isSet]
    rw [forwarded, forwarded, h, htool, dispatched, Invocation.forwarded_direct]
    cases call.argv with
    | nil => rfl
    | cons program args => exact Invocation.forwarded_subcommand program args
  · exact congrArg (library.colours · call.streams.outputIsTerminal)
      (ColourSettings.ofEnvironment_assign (by decide))

end Call

end Handoff
