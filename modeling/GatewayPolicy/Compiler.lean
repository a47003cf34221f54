import GatewayPolicy.Policy.Reading
import GatewayPolicy.Policy.Writing
import GatewayPolicy.Validation
/-!
# Compilers

Writing, reading and validating policies can be left to more than one compiler, of which this
library is one and a remote service may be another. A chain of compilers is asked in order: one that
answers that it is unavailable is passed over, and the first other answer, be it a value or an
error, is the answer of the chain.

What a call may do is left open: compilers live in any monad, so that a remote one can wait for its
answer and a test can watch who is called.
-/

namespace GatewayPolicy

/-- A compiler whose calls are computations in a monad. -/
structure Compiler (m : Type → Type) where
  /-- The name of the compiler. -/
  name : String
  /-- Writes the document of a model. -/
  toXml : Model → m (Except Error String)
  /-- Reads the model of a document. -/
  ofXml : String → m (Except Error Model)
  /-- Validates a model. -/
  validate : Model → m (Except Error ValidationResult)

/-- This library as a compiler; it is always available. -/
def Compiler.localWith {m : Type → Type} [Monad m] (settings : Settings := {}) : Compiler m where
  name := "local"
  toXml p := return .ok (p.toXml settings)
  ofXml document := return Model.ofXml settings document
  validate p := return .ok p.validate

/-- The answer is that the compiler is unavailable. -/
def isUnavailable {α : Type} : Except Error α → Bool
  | .error (.unavailable ..) => true
  | _ => false

/-- The answer of a chain in which no compiler is available. -/
def exhausted : Error := .unavailable "provider" "no compiler strategy is available"

/-- Makes one call after the other until one gives another answer than that it is unavailable. -/
def firstAvailable {m : Type → Type} [Monad m] {α : Type} :
    List (m (Except Error α)) → m (Except Error α)
  | [] => return .error exhausted
  | call :: rest => do
    let answer ← call
    if isUnavailable answer then firstAvailable rest else return answer

/-- Compilers in the order in which they are asked. -/
abbrev CompilerChain (m : Type → Type) := List (Compiler m)

namespace CompilerChain

variable {m : Type → Type} [Monad m]

/-- This library alone. -/
def builtin : CompilerChain m := [.localWith]

/-- The names of the compilers. -/
def names (chain : CompilerChain m) : List String := chain.map (·.name)

/-- Writes the document of a model. -/
def toXml (chain : CompilerChain m) (p : Model) : m (Except Error String) :=
  firstAvailable (chain.map (·.toXml p))

/-- Reads the model of a document. -/
def ofXml (chain : CompilerChain m) (document : String) : m (Except Error Model) :=
  firstAvailable (chain.map (·.ofXml document))

/-- Validates a model. -/
def validate (chain : CompilerChain m) (p : Model) : m (Except Error ValidationResult) :=
  firstAvailable (chain.map (·.validate p))

end CompilerChain

end GatewayPolicy
