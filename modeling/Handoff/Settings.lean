import Handoff.Environment
import Handoff.Runner

/-!
The settings: which runner to start, and what to log.

Each is read from a variable of its own. A runner that is not named, or named by a blank text, is
the default one; a filter falls back only if its variable is absent, so an empty filter is kept.
-/

namespace Handoff

structure Settings where
  runner : Runner
  logFilter : String
  deriving DecidableEq, Repr

namespace Settings

def runnerVariable : String := "AUTORUN_COMMAND"

def logVariable : String := "AUTORUN_LOG"

def defaultLogFilter : String := "warn"

def default : Settings := ⟨.default, defaultLogFilter⟩

instance : Inhabited Settings := ⟨default⟩

/-- The settings that a look-up of variables gives. -/
def ofLookup (lookup : String → Option String) : Settings where
  runner := ((lookup runnerVariable).bind Runner.ofText?).getD .default
  logFilter := (lookup logVariable).getD defaultLogFilter

/-- The settings of an environment. -/
def ofEnvironment (env : Environment) : Settings := ofLookup env.text?

/-- The words of the runner and the filter, each quoted. -/
def describe (settings : Settings) : String :=
  "Config \x7b command: " ++ Runner.list settings.runner.words ++ ", log_filter: " ++
    Quoted.string settings.logFilter ++ " \x7d"

theorem ofLookup_none : ofLookup (fun _ => none) = default := rfl

theorem ofLookup_congr {f g : String → Option String}
    (hrunner : f runnerVariable = g runnerVariable) (hlog : f logVariable = g logVariable) :
    ofLookup f = ofLookup g := by simp [ofLookup, hrunner, hlog]

/-- The runner is read off its own variable and nothing else. -/
theorem runner_ofEnvironment_congr {env other : Environment}
    (h : env.value? runnerVariable = other.value? runnerVariable) :
    (ofEnvironment env).runner = (ofEnvironment other).runner := by
  simp only [ofEnvironment, ofLookup, Environment.text?_congr h]

end Settings

end Handoff
