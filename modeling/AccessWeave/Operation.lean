/-!
The guarded operations. Each is known by the literal that travels to the guard, by the name
that denials show, by the configuration key of its allow-list, by the word that stands for
it in documents, and by the signature of the calls that perform it.
-/

namespace AccessWeave

inductive InvokeKind
  | static
  | virtual
  /-- Constructors, private methods and calls to the superclass. -/
  | special
  | interface
  deriving DecidableEq, Repr

namespace InvokeKind

def all : List InvokeKind := [static, virtual, special, interface]

def isStatic (kind : InvokeKind) : Bool := kind = static

def mnemonic : InvokeKind → String
  | static => "invokestatic"
  | virtual => "invokevirtual"
  | special => "invokespecial"
  | interface => "invokeinterface"

def word : InvokeKind → String
  | static => "static"
  | virtual => "virtual"
  | special => "special"
  | interface => "interface"

def ofWord? (word : String) : Option InvokeKind := all.find? fun kind => kind.word = word

end InvokeKind

/-- The target of a call. Two calls are calls to the same signature exactly when all four
parts are equal. -/
structure Signature where
  kind : InvokeKind
  owner : String
  name : String
  descriptor : String
  deriving DecidableEq, Repr

def Signature.text (signature : Signature) : String :=
  signature.kind.mnemonic ++ " " ++ signature.owner ++ "." ++ signature.name
    ++ signature.descriptor

/-- The call that asks the guard. It takes the key of the operation from the stack. -/
def guardEntry : Signature :=
  { kind := .static
    owner := "callguard/bootstrap/AccessControl"
    name := "checkPermission"
    descriptor := "(Ljava/lang/String;)V" }

inductive Operation
  | runtimeExit
  | processStart
  | socketConnect
  deriving DecidableEq, Repr

namespace Operation

def all : List Operation := [runtimeExit, processStart, socketConnect]

theorem mem_all (operation : Operation) : operation ∈ all := by
  cases operation <;> decide

def ordinal : Operation → Nat
  | runtimeExit => 0
  | processStart => 1
  | socketConnect => 2

/-- The literal that names the operation to the guard. -/
def key : Operation → String
  | runtimeExit => "Runtime.exit"
  | processStart => "ProcessBuilder.start"
  | socketConnect => "Socket.connect"

def displayName : Operation → String
  | runtimeExit => "Runtime.exit"
  | processStart => "ProcessBuilder.start(...)"
  | socketConnect => "Socket.connect"

def configKey : Operation → String
  | runtimeExit => "callguard.runtime.exit.allow"
  | processStart => "callguard.system.exec.allow"
  | socketConnect => "callguard.network.connect.allow"

def word : Operation → String
  | runtimeExit => "runtime_exit"
  | processStart => "process_start"
  | socketConnect => "socket_connect"

/-- The calls that perform the operation. Leaving the system delegates to leaving the
runtime, so the one signature covers both. -/
def signature : Operation → Signature
  | runtimeExit =>
      { kind := .virtual, owner := "java/lang/Runtime", name := "exit", descriptor := "(I)V" }
  | processStart =>
      { kind := .virtual, owner := "java/lang/ProcessBuilder", name := "start"
        descriptor := "([Ljava/lang/ProcessBuilder$Redirect;)Ljava/lang/Process;" }
  | socketConnect =>
      { kind := .virtual, owner := "java/net/Socket", name := "connect"
        descriptor := "(Ljava/net/SocketAddress;)V" }

/-- Types that are loaded before any class can be woven and whose methods hold the call. -/
def runtimeCallers : Operation → List String
  | runtimeExit => ["java/lang/System"]
  | processStart => ["java/lang/ProcessBuilder"]
  | socketConnect => ["java/net/Socket"]

def ofKey? (key : String) : Option Operation := all.find? fun operation => operation.key = key

def ofConfigKey? (key : String) : Option Operation :=
  all.find? fun operation => operation.configKey = key

def ofWord? (word : String) : Option Operation :=
  all.find? fun operation => operation.word = word

end Operation

end AccessWeave
