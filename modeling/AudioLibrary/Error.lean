/-!
# Errors

Errors come from the host (`BridgeError`), from the library (`LibraryError`), from setting the
runtime up (`RuntimeError`) and from the service as a whole (`CoreError`).  Each has the name of its
kind and a message.
-/

namespace AudioLibrary

/-- What a capability of the host answers when it fails. -/
inductive BridgeError where
  | notAvailable (message : String)
  | operationFailed (message : String)
  | database (message : String)
  | io (message : String)
deriving DecidableEq, Repr

namespace BridgeError

def kind : BridgeError → String
  | notAvailable _ => "NotAvailable"
  | operationFailed _ => "OperationFailed"
  | database _ => "DatabaseError"
  | io _ => "Io"

def message : BridgeError → String
  | notAvailable m => "Bridge capability not available: " ++ m
  | operationFailed m => "Bridge operation failed: " ++ m
  | database m => "Database error: " ++ m
  | io m => "IO error: " ++ m

end BridgeError

/-- Why a call on the library fails. -/
inductive LibraryError where
  | bridge (e : BridgeError)
  | notFound (entity id : String)
  | invalidInput (field message : String)
deriving DecidableEq, Repr

namespace LibraryError

def kind : LibraryError → String
  | bridge _ => "Bridge"
  | notFound .. => "NotFound"
  | invalidInput .. => "InvalidInput"

def message : LibraryError → String
  | bridge e => "Bridge error: " ++ e.message
  | notFound entity id => "Entity not found: " ++ entity ++ " with id " ++ id
  | invalidInput field message => "Invalid input: " ++ field ++ " - " ++ message

end LibraryError

/-- Why the runtime cannot be set up. -/
inductive RuntimeError where
  | config (message : String)
  | capabilityMissing (capability message : String)
  | logging (message : String)
deriving DecidableEq, Repr

namespace RuntimeError

def kind : RuntimeError → String
  | config _ => "Config"
  | capabilityMissing .. => "CapabilityMissing"
  | logging _ => "Logging"

def message : RuntimeError → String
  | config m => "Configuration error: " ++ m
  | capabilityMissing capability m => "Capability missing: " ++ capability ++ " - " ++ m
  | logging m => "Logging setup failed: " ++ m

end RuntimeError

/-- Why the service fails. -/
inductive CoreError where
  | initializationFailed (message : String)
  | capabilityMissing (capability message : String)
  | runtime (e : RuntimeError)
  | library (e : LibraryError)
deriving DecidableEq, Repr

namespace CoreError

/-- A missing capability stays what it is. -/
def ofRuntime : RuntimeError → CoreError
  | .capabilityMissing capability message => .capabilityMissing capability message
  | e => .runtime e

def kind : CoreError → String
  | initializationFailed _ => "InitializationFailed"
  | capabilityMissing .. => "CapabilityMissing"
  | runtime _ => "Runtime"
  | library _ => "Library"

def message : CoreError → String
  | initializationFailed m => "Core initialization failed: " ++ m
  | capabilityMissing capability m => "Capability missing: " ++ capability ++ " - " ++ m
  | runtime e => "Runtime error: " ++ e.message
  | library e => "Library error: " ++ e.message

end CoreError

end AudioLibrary
