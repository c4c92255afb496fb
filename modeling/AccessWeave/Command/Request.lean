import AccessWeave.Command.Arguments
import AccessWeave.Host.Path
import AccessWeave.Weave.Transformer

/-!
What a command line asks for. Two options may stand at every level: one asks for JSON
instead of text, the other sets the amount of logging and changes nothing else. A command
line that breaks a rule asks for nothing.
-/

namespace AccessWeave

structure PolicySource where
  file : Option Path
  readsEnvironment : Bool
  overrides : List String
  deriving DecidableEq, Repr

inductive Attempt
  | exit (status : Int)
  | exec (program : String) (arguments : List String)
  | connect (address : String) (payload : Option String)
  deriving DecidableEq, Repr

structure WeaveRequest where
  input : Path
  output : Option Path
  format : Option Codec
  dispatch : Dispatch
  placement : Placement
  deriving DecidableEq, Repr

inductive Request
  | checkConfig (source : PolicySource) (asAgent : Bool)
  | transform (request : WeaveRequest)
  | inspect (input : Path) (format : Option Codec) (verify : Bool)
  | assemble (input : Path) (output : Option Path)
  | simulate (source : PolicySource) (principal : Option String) (attempt : Attempt)
  deriving DecidableEq, Repr

structure Invocation where
  asJson : Bool
  request : Request
  deriving DecidableEq, Repr

def sharedOptions : List OptionForm :=
  [⟨"json", none, .switch⟩, ⟨"log-level", none, .single⟩]

def policyOptions : List OptionForm :=
  [⟨"config", some 'c', .single⟩, ⟨"no-env", none, .switch⟩, ⟨"set", none, .repeated⟩]

namespace CommandLevel

def ofOptions (options : List OptionForm) : CommandLevel :=
  ⟨sharedOptions ++ options, [], false⟩

def outermost : CommandLevel :=
  { ofOptions [] with
    commands := ["check-config", "transform", "inspect", "assemble", "simulate"] }

def checkConfig : CommandLevel := ofOptions (policyOptions ++ [⟨"agent", none, .switch⟩])

def transform : CommandLevel :=
  ofOptions
    [⟨"output", some 'o', .single⟩, ⟨"format", none, .single⟩, ⟨"dispatch", none, .single⟩,
     ⟨"placement", none, .single⟩]

def inspect : CommandLevel :=
  ofOptions [⟨"format", none, .single⟩, ⟨"verify", none, .switch⟩]

def assemble : CommandLevel := ofOptions [⟨"output", some 'o', .single⟩]

def simulate : CommandLevel :=
  { ofOptions (policyOptions ++ [⟨"principal", some 'p', .single⟩]) with
    commands := ["exit", "exec", "connect"] }

def exit : CommandLevel := ofOptions []

def exec : CommandLevel := { ofOptions [] with hasTail := true }

def connect : CommandLevel := ofOptions [⟨"payload", none, .single⟩]

end CommandLevel

def pathOf? (word : String) : Option Path := if word = "" then none else some ⟨word⟩

def digitsValue (digits : List Char) : Nat :=
  digits.foldl (fun value digit => value * 10 + (digit.toNat - 48)) 0

def naturalOf? (digits : List Char) : Option Nat :=
  if digits ≠ [] ∧ digits.all Char.isDigit then some (digitsValue digits) else none

/-- An exit status: decimal digits with an optional sign, in 32 bits. -/
def statusOf? (word : String) : Option Int := do
  let value : Int ← match word.toList with
    | '-' :: digits => (naturalOf? digits).map fun value => -(value : Int)
    | '+' :: digits => (naturalOf? digits).map Int.ofNat
    | digits => (naturalOf? digits).map Int.ofNat
  if Int32.minValue.toInt ≤ value ∧ value ≤ Int32.maxValue.toInt then some value else none

def formatOf? (word : String) : Option Codec :=
  [("binary", Codec.binary), ("json", .json)].lookup word

def dispatchOf? (word : String) : Option Dispatch :=
  [("all", Dispatch.allRules), ("referenced", .referencedOwners)].lookup word

def placementOf? (word : String) : Option Placement :=
  [("before-call", Placement.beforeCall), ("method-entry", .methodEntry)].lookup word

namespace LevelWords

/-- The value of an option that may be absent; nothing if its value cannot be read. -/
def optional? {Value : Type} (words : LevelWords) (name : String)
    (read : String → Option Value) : Option (Option Value) :=
  match words.value? name with
  | none => some none
  | some word => (read word).map some

def operand? (words : LevelWords) : Option String :=
  match words.operands with
  | [word] => some word
  | _ => none

def asksForJson (words : LevelWords) : Bool := words.isSet "json"

def policySource? (words : LevelWords) : Option PolicySource := do
  let file ← words.optional? "config" pathOf?
  some ⟨file, !words.isSet "no-env", words.values "set"⟩

end LevelWords

namespace Request

def checkConfig? (words : LevelWords) : Option Request := do
  let source ← words.policySource?
  if words.operands = [] then some (.checkConfig source (words.isSet "agent")) else none

def transform? (words : LevelWords) : Option Request := do
  let input ← words.operand?.bind pathOf?
  let output ← words.optional? "output" pathOf?
  let format ← words.optional? "format" formatOf?
  let dispatch ← words.optional? "dispatch" dispatchOf?
  let placement ← words.optional? "placement" placementOf?
  some (.transform
    { input, output, format, dispatch := dispatch.getD .allRules
      placement := placement.getD .beforeCall })

def inspect? (words : LevelWords) : Option Request := do
  let input ← words.operand?.bind pathOf?
  let format ← words.optional? "format" formatOf?
  some (.inspect input format (words.isSet "verify"))

def assemble? (words : LevelWords) : Option Request := do
  let input ← words.operand?.bind pathOf?
  let output ← words.optional? "output" pathOf?
  some (.assemble input output)

end Request

def attempt? (name : String) (words : List String) : Option (Attempt × Bool) := do
  if name = "exit" then
    let sorted ← CommandLevel.exit.read words
    match sorted.operands with
    | [] => some (.exit 0, sorted.asksForJson)
    | [word] => (statusOf? word).map fun status => (.exit status, sorted.asksForJson)
    | _ => none
  else if name = "exec" then
    let sorted ← CommandLevel.exec.read words
    match sorted.operands with
    | [] => none
    | program :: arguments => some (.exec program arguments, sorted.asksForJson)
  else if name = "connect" then
    let sorted ← CommandLevel.connect.read words
    let address ← sorted.operand?
    some (.connect address (sorted.value? "payload"), sorted.asksForJson)
  else none

def simulation? (words : List String) : Option (Request × Bool) := do
  let sorted ← CommandLevel.simulate.read words
  let source ← sorted.policySource?
  let (name, inner) ← sorted.command
  let (attempt, asJson) ← attempt? name inner
  if sorted.operands = [] then
    some (.simulate source (sorted.value? "principal") attempt, sorted.asksForJson || asJson)
  else none

def requestAt (level : CommandLevel) (request? : LevelWords → Option Request)
    (words : List String) : Option (Request × Bool) := do
  let sorted ← level.read words
  let request ← request? sorted
  some (request, sorted.asksForJson)

def request? (name : String) (words : List String) : Option (Request × Bool) :=
  if name = "check-config" then requestAt .checkConfig Request.checkConfig? words
  else if name = "transform" then requestAt .transform Request.transform? words
  else if name = "inspect" then requestAt .inspect Request.inspect? words
  else if name = "assemble" then requestAt .assemble Request.assemble? words
  else if name = "simulate" then simulation? words
  else none

def Invocation.ofWords? (words : List String) : Option Invocation := do
  let sorted ← CommandLevel.outermost.read words
  let (name, inner) ← sorted.command
  let (request, asJson) ← request? name inner
  if sorted.operands = [] then some ⟨sorted.asksForJson || asJson, request⟩ else none

end AccessWeave
