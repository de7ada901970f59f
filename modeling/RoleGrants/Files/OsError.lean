import RoleGrants.Text.Quoted

/-! # Refusals of the operating system

Each refusal has a number, a kind and a text.  `message` is the text with the
number; `debug` spells out all three. -/

set_option autoImplicit false

namespace RoleGrants

inductive OsError where
  | notFound
  | busy
  | fileExists
  | notFolder
  | isFolder
  | nameTooLong
  | addressNotAvailable
  | networkUnreachable
  | nullInName
  | notRegularFile
  | noTree
  | other (text : String)
  deriving DecidableEq, Repr, Inhabited

namespace OsError

def code? : OsError → Option Nat
  | .notFound => some 2
  | .busy => some 16
  | .fileExists => some 17
  | .notFolder => some 20
  | .isFolder => some 21
  | .nameTooLong => some 36
  | .addressNotAvailable => some 99
  | .networkUnreachable => some 101
  | _ => none

def kind : OsError → String
  | .notFound => "NotFound"
  | .busy => "ResourceBusy"
  | .fileExists => "AlreadyExists"
  | .notFolder => "NotADirectory"
  | .isFolder => "IsADirectory"
  | .nameTooLong => "InvalidFilename"
  | .addressNotAvailable => "AddrNotAvailable"
  | .networkUnreachable => "NetworkUnreachable"
  | .nullInName => "InvalidInput"
  | .notRegularFile => "InvalidInput"
  | .noTree => "Uncategorized"
  | .other _ => "Other"

def text : OsError → String
  | .notFound => "No such file or directory"
  | .busy => "Device or resource busy"
  | .fileExists => "File exists"
  | .notFolder => "Not a directory"
  | .isFolder => "Is a directory"
  | .nameTooLong => "File name too long"
  | .addressNotAvailable => "Cannot assign requested address"
  | .networkUnreachable => "Network is unreachable"
  | .nullInName => "file name contained an unexpected NUL byte"
  | .notRegularFile => "the source path is neither a regular file nor a symlink to a regular file"
  | .noTree => "failed to create whole tree"
  | .other reason => reason

def message (error : OsError) : String :=
  match error.code? with
  | some code => error.text ++ " (os error " ++ toString code ++ ")"
  | none => error.text

def debug (error : OsError) : String :=
  match error.code? with
  | some code =>
      "Os " ++ Text.braced ("code: " ++ toString code ++ ", kind: " ++ error.kind ++
        ", message: " ++ Text.quote error.text)
  | none =>
      match error with
      | .other reason => "Custom " ++ Text.braced ("kind: Other, error: " ++ Text.quote reason)
      | _ =>
          "Error " ++ Text.braced ("kind: " ++ error.kind ++ ", message: " ++
            Text.quote error.text)

end OsError

end RoleGrants
