import HackArena.Runtime.EngineState

/-!
# Status answers of the services

Errors leave the services as gRPC statuses: a code and a text.
-/

namespace HackArena.Services

open Boink HackArena.Runtime

inductive Code where
  | invalidArgument | notFound | failedPrecondition | unauthenticated | unavailable | internal
  | alreadyExists | resourceExhausted | deadlineExceeded | permissionDenied | cancelled | unknown
  | aborted | outOfRange | unimplemented | dataLoss
  deriving DecidableEq, Repr

structure Status where
  code : Code
  message : String
  deriving DecidableEq, Repr

/-- The `Display` texts of the engine wrapper's errors. -/
def errorText : BoinkError → String
  | .nullHandle func => "native call " ++ func ++ " returned a null handle"
  | .invalidCarModel detail => "invalid car model: " ++ detail
  | .invalidString detail => "invalid string: " ++ detail
  | .invalidArg => "invalid argument"
  | .bufferTooSmall => "buffer too small"
  | .notFound => "resource not found"
  | .noData => "no data available"
  | .conditionNotMet => "condition not met"
  | .unsupportedFormat => "unsupported format"
  | .io => "I/O error"
  | .internal detail => "internal error: " ++ detail
  | .ffiStatus code func => func ++ " returned native error code " ++ toString code
  | .incompatibleVersion _ _ => "incompatible native library version"
  | .native code => "native error code " ++ toString code

def mapEngineErr (err : BoinkError) : Status :=
  ⟨.internal, "engine error: " ++ errorText err⟩

def mapWorkerErr : EngineWorkerError → Status
  | .engine err => mapEngineErr err
  | .workerStopped => ⟨.unavailable, "engine worker stopped"⟩
  | .invalidArgument message => ⟨.invalidArgument, message⟩
  | .revisionMismatch expected actual =>
      ⟨.failedPrecondition, "runtime revision mismatch: expected " ++ toString expected ++
        ", actual " ++ toString actual⟩

end HackArena.Services
