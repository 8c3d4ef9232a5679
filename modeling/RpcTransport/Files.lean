/-! # Files

What operations learn about files: the bytes of one, and whether something has a path.
Reading text also takes that the bytes are well-formed UTF-8.
-/

namespace RpcTransport

inductive FileError where
  | missing
  | isDirectory
  | notDirectory
  | nameTooLong
  /-- A NUL character in the path. -/
  | malformedPath
  /-- The bytes are not well-formed text. -/
  | notText
  | other (message : String)
  deriving Repr, DecidableEq

def FileError.message : FileError → String
  | .missing => "No such file or directory (os error 2)"
  | .isDirectory => "Is a directory (os error 21)"
  | .notDirectory => "Not a directory (os error 20)"
  | .nameTooLong => "File name too long (os error 36)"
  | .malformedPath => "file name contained an unexpected NUL byte"
  | .notText => "stream did not contain valid UTF-8"
  | .other message => message

structure Files where
  bytes : String → Except FileError ByteArray
  isPresent : String → Bool

namespace Files

def text (files : Files) (path : String) : Except FileError String :=
  match files.bytes path with
  | .error e => .error e
  | .ok bytes =>
    match String.fromUTF8? bytes with
    | some text => .ok text
    | none => .error .notText

end Files

end RpcTransport
