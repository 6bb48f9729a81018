/-
Tasks that call something: a model on an input, or a function that a plugin defines.
-/
import TaskScript.Once
import TaskScript.Environment
import TaskScript.Plugin

namespace TaskScript

/-- The names of the variables between commas, as arguments and tuples show them. -/
def Variable.listed (items : List Variable) : String :=
  ", ".intercalate (items.map Variable.name)

structure RunInference where
  model : Once "model" Variable := {}
  input : Once "input" Variable := {}
  output : Once "output" Variable := {}
  steps : Option Variable := none
  deriving DecidableEq, Repr

namespace RunInference

def inputs (task : RunInference) : Reading VariableSet := do
  let model ← task.model.read
  let input ← task.input.read
  return (AscendingSet.ofList [model, input]).extend task.steps.toList

def outputs (task : RunInference) : Reading VariableSet := do
  return .single (← task.output.read)

def code (task : RunInference) : Reading String := do
  let steps :=
    match task.steps with
    | some steps => s!", steps={steps.name}"
    | none => ""
  let output ← task.output.read
  let model ← task.model.read
  let input ← task.input.read
  return s!"{output.name} = {model.name}.predict({input.name}{steps})"

end RunInference

structure RunPlugin where
  functionName : Once "function_name" String := {}
  functionDefinition : Once "function_definition" String := {}
  functionInputs : Once "function_inputs" (List Variable) := {}
  functionOutputs : Once "function_outputs" (List Variable) := {}
  deriving DecidableEq, Repr

namespace RunPlugin

/-- Takes the definition from a plugin, then the name of a function in it.  When the
name is refused the definition stays. -/
def usePlugin (plugin : Plugin) (function : String) (task : RunPlugin) :
    RunPlugin × Except Reassigned Unit :=
  match task.functionDefinition.assign plugin.contents with
  | .error error => (task, .error error)
  | .ok definition =>
      let defined := { task with functionDefinition := definition }
      match defined.functionName.assign function with
      | .error error => (defined, .error error)
      | .ok name => ({ defined with functionName := name }, .ok ())

def inputs (task : RunPlugin) : Reading VariableSet := do
  return .ofList (← task.functionInputs.read)

def outputs (task : RunPlugin) : Reading VariableSet := do
  return .ofList (← task.functionOutputs.read)

def check (env : Environment) (task : RunPlugin) : Reading Bool := do
  let _ ← task.functionDefinition.read
  return env.acceptsName (← task.functionName.read)

def code (task : RunPlugin) : Reading String := do
  let outputs ← task.functionOutputs.read
  let assignment := if outputs.isEmpty then "" else s!"({Variable.listed outputs}) = "
  let definition ← task.functionDefinition.read
  let function ← task.functionName.read
  let inputs ← task.functionInputs.read
  return s!"\n\n{definition}\n\n\n{assignment}{function}({Variable.listed inputs})"

end RunPlugin

end TaskScript
