import Scaffold.Json.Decode

namespace Scaffold

/-!
# Faults

Everything that can go wrong, by cause, and the wording of each cause.
-/

/-- An error reported by the operating system. -/
inductive OsError where
  | numbered (code : Nat)
  /-- A path with a NUL character, which is refused before the system is asked. -/
  | nulInPath
  deriving DecidableEq, Repr, Inhabited

namespace OsError

def notFound : OsError := numbered 2
def busy : OsError := numbered 16
def alreadyExists : OsError := numbered 17
def notADirectory : OsError := numbered 20
def isADirectory : OsError := numbered 21
def nameTooLong : OsError := numbered 36
def tooManyLinks : OsError := numbered 40

/-- What the system calls an error. -/
def describe (code : Nat) : String :=
  if code == 1 then "Operation not permitted"
  else if code == 2 then "No such file or directory"
  else if code == 13 then "Permission denied"
  else if code == 16 then "Device or resource busy"
  else if code == 17 then "File exists"
  else if code == 20 then "Not a directory"
  else if code == 21 then "Is a directory"
  else if code == 22 then "Invalid argument"
  else if code == 28 then "No space left on device"
  else if code == 30 then "Read-only file system"
  else if code == 36 then "File name too long"
  else if code == 39 then "Directory not empty"
  else if code == 40 then "Too many levels of symbolic links"
  else if code == 5 then "Input/output error"
  else if code == 11 then "Resource temporarily unavailable"
  else if code == 12 then "Cannot allocate memory"
  else if code == 24 then "Too many open files"
  else if code == 26 then "Text file busy"
  else if code == 27 then "File too large"
  else if code == 18 then "Invalid cross-device link"
  else "Unknown error " ++ toString code

def message : OsError → String
  | numbered code => describe code ++ " (os error " ++ toString code ++ ")"
  | nulInPath => "file name contained an unexpected NUL byte"

end OsError

/-- One problem that validation found. -/
structure FieldError where
  field : String
  message : String
  deriving DecidableEq, Repr, Inhabited

namespace FieldError

def text (e : FieldError) : String :=
  e.field ++ ": " ++ e.message

end FieldError

/-- The problems that validation found, in the order of the checks. -/
abbrev FieldErrors := List FieldError

namespace FieldErrors

/-- Whether a problem concerns `field` or one of its numbered children. -/
def mentions (errors : FieldErrors) (field : String) : Bool :=
  errors.any (fun e => e.field == field || (field ++ "[").toList.isPrefixOf e.field.toList)

/-- All problems on one line. -/
def text (errors : FieldErrors) : String :=
  "; ".intercalate (errors.map FieldError.text)

end FieldErrors

/-- Why an operation failed. -/
inductive Fault where
  | io (cause : OsError)
  | yaml
  | json (cause : Json.DecodeFault)
  | validation (errors : FieldErrors)
  | conflict (path : String)
  | render (template message : String)
  | fileOperation (operation path : String) (cause : OsError)
  | history (message : String)
  | unsupported (component operation : String)
  | anchor (target message : String)
  | configuration (message : String)
  deriving DecidableEq, Repr

namespace Fault

/-- The kind of a fault. -/
def kind : Fault → String
  | io _ => "Io"
  | yaml => "Yaml"
  | json _ => "Json"
  | validation _ => "Validation"
  | conflict _ => "Conflict"
  | render _ _ => "Render"
  | fileOperation _ _ _ => "FileOperation"
  | history _ => "History"
  | unsupported _ _ => "Unsupported"
  | anchor _ _ => "Anchor"
  | configuration _ => "Configuration"

/-- The fault in words. -/
def text : Fault → String
  | io cause => "IO error: " ++ cause.message
  | yaml => "YAML parsing error"
  | json cause => "JSON parsing error: " ++ cause.message
  | validation errors => "Validation failed: " ++ FieldErrors.text errors
  | conflict path => "File '" ++ path ++ "' already exists; set overwriteExisting to replace it"
  | render template message => "Render error in template '" ++ template ++ "': " ++ message
  | fileOperation operation path cause =>
    "IO error during " ++ operation ++ " of '" ++ path ++ "': " ++ cause.message
  | history message => "History error: " ++ message
  | unsupported component operation => "Component '" ++ component ++ "' does not support " ++ operation
  | anchor target message => "Anchor error in '" ++ target ++ "': " ++ message
  | configuration message => "Configuration error: " ++ message

/-- The lines that a response reports: each problem of a validation by itself, any other fault as
one line. -/
def messages : Fault → List String
  | validation errors => errors.map FieldError.text
  | fault => [fault.text]

def isValidation : Fault → Bool
  | validation _ => true
  | _ => false

def isConflict : Fault → Bool
  | conflict _ => true
  | _ => false

def isRender : Fault → Bool
  | render _ _ => true
  | _ => false

end Fault
end Scaffold
