import CannedReply.Text.Quoted

/-!
What an operating system answers when it does not do what it is asked for.
-/

namespace CannedReply

/-- A refusal of the operating system, or of a call that fails before it gets there. -/
inductive Failure where
  | noSuchFile
  | notPermitted
  | noSuchDevice
  | notADirectory
  | isADirectory
  | badArgument
  | tooManyOpenFiles
  | noSpaceLeft
  | nameTooLong
  | addressInUse
  | addressNotAvailable
  | networkUnreachable
  | nulInName
  | notText
  | unknownHost
  | noAddresses
  /-- A refusal that has no name here. -/
  | other (number : Nat) (words : String)
  deriving DecidableEq, Repr

namespace Failure

/-- The number of the refusal, if it is the system's own. -/
def code? : Failure → Option Nat
  | noSuchFile => some 2
  | notPermitted => some 13
  | noSuchDevice => some 19
  | notADirectory => some 20
  | isADirectory => some 21
  | badArgument => some 22
  | tooManyOpenFiles => some 24
  | noSpaceLeft => some 28
  | nameTooLong => some 36
  | addressInUse => some 98
  | addressNotAvailable => some 99
  | networkUnreachable => some 101
  | nulInName | notText | unknownHost | noAddresses => none
  | other number _ => some number

def reason : Failure → String
  | noSuchFile => "No such file or directory"
  | notPermitted => "Permission denied"
  | noSuchDevice => "No such device"
  | notADirectory => "Not a directory"
  | isADirectory => "Is a directory"
  | badArgument => "Invalid argument"
  | tooManyOpenFiles => "Too many open files"
  | noSpaceLeft => "No space left on device"
  | nameTooLong => "File name too long"
  | addressInUse => "Address already in use"
  | addressNotAvailable => "Cannot assign requested address"
  | networkUnreachable => "Network is unreachable"
  | nulInName => "file name contained an unexpected NUL byte"
  | notText => "stream did not contain valid UTF-8"
  | unknownHost => "failed to lookup address information: Name or service not known"
  | noAddresses => "host resolved to no addresses"
  | other _ words => words

def named : List Failure :=
  [noSuchFile, notPermitted, noSuchDevice, notADirectory, isADirectory, badArgument,
    tooManyOpenFiles, noSpaceLeft, nameTooLong, addressInUse, addressNotAvailable,
    networkUnreachable]

/-- The refusal with a number, which has these words if it has no name. -/
def ofCode (number : Nat) (words : String) : Failure :=
  (named.find? fun f => f.code? = some number).getD (other number words)

/-- The class of refusals that it belongs to. -/
inductive Kind where
  | notFound
  | permissionDenied
  | notADirectory
  | isADirectory
  | invalidInput
  | invalidData
  | invalidFilename
  | storageFull
  | addrInUse
  | addrNotAvailable
  | networkUnreachable
  | uncategorized
  deriving DecidableEq, Repr

def Kind.name : Kind → String
  | notFound => "NotFound"
  | permissionDenied => "PermissionDenied"
  | notADirectory => "NotADirectory"
  | isADirectory => "IsADirectory"
  | invalidInput => "InvalidInput"
  | invalidData => "InvalidData"
  | invalidFilename => "InvalidFilename"
  | storageFull => "StorageFull"
  | addrInUse => "AddrInUse"
  | addrNotAvailable => "AddrNotAvailable"
  | networkUnreachable => "NetworkUnreachable"
  | uncategorized => "Uncategorized"

def kind : Failure → Kind
  | noSuchFile => .notFound
  | notPermitted => .permissionDenied
  | noSuchDevice => .uncategorized
  | notADirectory => .notADirectory
  | isADirectory => .isADirectory
  | badArgument => .invalidInput
  | tooManyOpenFiles => .uncategorized
  | noSpaceLeft => .storageFull
  | nameTooLong => .invalidFilename
  | addressInUse => .addrInUse
  | addressNotAvailable => .addrNotAvailable
  | networkUnreachable => .networkUnreachable
  | nulInName => .invalidInput
  | notText => .invalidData
  | unknownHost => .uncategorized
  | noAddresses => .invalidInput
  | other _ _ => .uncategorized

/-- The message for a reader: the reason, with the number if there is one. -/
def message (f : Failure) : String :=
  match f.code? with
  | some code => f.reason ++ " (os error " ++ Numeral.decimal code ++ ")"
  | none => f.reason

/-- The full account for a log, part by part. -/
def account (f : Failure) : String :=
  let kind := "kind: " ++ f.kind.name
  match f, f.code? with
  | _, some code =>
    "Os \x7b code: " ++ Numeral.decimal code ++ ", " ++ kind
      ++ ", message: " ++ Text.quoted f.reason ++ " \x7d"
  | unknownHost, none | noAddresses, none =>
    "Custom \x7b " ++ kind ++ ", error: " ++ Text.quoted f.reason ++ " \x7d"
  | _, none => "Error \x7b " ++ kind ++ ", message: " ++ Text.quoted f.reason ++ " \x7d"

end Failure

end CannedReply
