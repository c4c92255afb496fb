import AccessWeave.Shell.Numeral
import AccessWeave.Shell.Output

/-!
Setting variables and taking them away. A variable can be marked: as one that programs are given,
or as one that stays as it is. Some variables tell the shell something, which it takes note of
whenever they get a value.
-/

namespace AccessWeave.Shell

structure Marks where
  exports : Bool
  fixes : Bool
  deriving DecidableEq, Repr

namespace Marks

def none : Marks := ⟨false, false⟩

def exported : Marks := ⟨true, false⟩

end Marks

namespace Action

/-- Takes note of a value that a variable is to have. Programs are looked for anew in other
places, and options from another parameter on. -/
def heed (name value : String) : Action Unit := do
  if name = "PATH" then modify fun state => { state with tracked := [] }
  if name = "OPTIND" then
    match count? value with
    | some index => modify fun state => { state with optionPlace := ⟨max index 1, none⟩ }
    | none => illegalNumber value

/-- Sets a variable by whatever name, or marks it when there is no value. -/
def setNamed (marks : Marks) (name : String) (value : Option String) : Action Unit := do
  let state ← get
  let earlier := state.binding? name
  if (earlier.map Binding.isReadOnly).getD false then fail (name ++ ": is read only")
  if let some value := value then heed name value
  let exports := marks.exports || state.hasOption "allexport"
    || (earlier.map Binding.isExported).getD false
  modify fun state => state.putBinding name ⟨value, exports, marks.fixes⟩

def checkName (name : String) : Action Unit := do
  if isName name.toList = false then fail (name ++ ": bad variable name")

def setVariableWith (marks : Marks) (name : String) (value : Option String) : Action Unit := do
  checkName name
  setNamed marks name value

def setVariable (name value : String) : Action Unit :=
  setVariableWith .none name (some value)

def unsetVariable (name : String) : Action Unit := do
  checkName name
  if (((← get).binding? name).map Binding.isReadOnly).getD false then
    fail (name ++ ": is read only")
  heed name ""
  modify fun state => state.dropBinding name

def restoreVariable (name : String) (binding : Option Binding) : Action Unit := do
  match binding with
  | some binding =>
      heed name (binding.value.getD "")
      modify fun state => state.putBinding name binding
  | none =>
      checkName name
      heed name ""
      modify fun state => state.dropBinding name

end Action

end AccessWeave.Shell
