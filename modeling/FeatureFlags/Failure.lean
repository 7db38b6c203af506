/-!
What can go wrong between the service and the store. Some failures may pass by themselves; after the
others there is no use in trying again.
-/
namespace FeatureFlags

inductive Failure where
  | httpStatus (code : Nat)
  | network (text : String)
  | io (text : String)
  | invalidData (text : String)
  | store (text : String)
  | invalidUri
  | threadPanicked
  deriving DecidableEq, Inhabited

inductive FailureKind where
  | networkError
  | errorResponse
  | invalidData
  | storeError
  | unknown
  deriving DecidableEq, Inhabited

def FailureKind.name : FailureKind → String
  | .networkError => "NetworkError"
  | .errorResponse => "ErrorResponse"
  | .invalidData => "InvalidData"
  | .storeError => "StoreError"
  | .unknown => "Unknown"

namespace Failure

def message : Failure → String
  | .httpStatus code => "received HTTP error " ++ toString code
  | .network text => "network error: " ++ text
  | .io text => text
  | .invalidData text => "invalid data: " ++ text
  | .store text => "data store error: " ++ text
  | .invalidUri => "invalid URI configuration"
  | .threadPanicked => "data source thread panicked"

def kind : Failure → FailureKind
  | .httpStatus _ => .errorResponse
  | .network _ | .io _ => .networkError
  | .invalidData _ => .invalidData
  | .store _ => .storeError
  | .invalidUri | .threadPanicked => .unknown

def statusCode? : Failure → Option Nat
  | .httpStatus code => some code
  | _ => none

/-- A request that the service refuses is not repeated, unless the refusal is about time or
number; nor is anything done about an address that makes no sense. -/
def isRecoverable : Failure → Bool
  | .httpStatus code =>
      !(400 ≤ code && code < 500) || code == 400 || code == 408 || code == 429
  | .invalidUri => false
  | _ => true

end Failure

structure FailureInfo where
  kind : FailureKind
  statusCode : Option Nat
  message : String
  deriving DecidableEq, Inhabited

namespace FailureInfo

def ofFailure (failure : Failure) : FailureInfo :=
  ⟨failure.kind, failure.statusCode?, failure.message⟩

def display (info : FailureInfo) : String :=
  match info.statusCode with
  | some code => info.kind.name ++ "(" ++ toString code ++ "): " ++ info.message
  | none => info.kind.name ++ ": " ++ info.message

end FailureInfo

end FeatureFlags
