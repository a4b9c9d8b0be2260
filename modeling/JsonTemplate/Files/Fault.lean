import JsonTemplate.Json.SyntaxError
import JsonTemplate.Text.Quoted
import JsonTemplate.Text.Utf8

/-!
# What can go wrong with a file

The system refuses a file by its path; the bytes of a file may be no text; a text may be no JSON.
-/

namespace JsonTemplate

inductive SystemFault where
  | notFound
  | argumentsTooLong
  | badDescriptor
  | permissionDenied
  | notADirectory
  | isADirectory
  | nameTooLong
  deriving DecidableEq, Repr

namespace SystemFault

def code : SystemFault → Nat
  | notFound => 2
  | argumentsTooLong => 7
  | badDescriptor => 9
  | permissionDenied => 13
  | notADirectory => 20
  | isADirectory => 21
  | nameTooLong => 36

def reason : SystemFault → String
  | notFound => "No such file or directory"
  | argumentsTooLong => "Argument list too long"
  | badDescriptor => "Bad file descriptor"
  | permissionDenied => "Permission denied"
  | notADirectory => "Not a directory"
  | isADirectory => "Is a directory"
  | nameTooLong => "File name too long"

def message (f : SystemFault) (path : String) : String :=
  s!"[Errno {f.code}] {f.reason}: {Text.quoted path}"

end SystemFault

namespace Text.Utf8

def Reason.message : Reason → String
  | .invalidStart => "invalid start byte"
  | .invalidContinuation => "invalid continuation byte"
  | .unexpectedEnd => "unexpected end of data"

def Fault.message (f : Fault) : String :=
  if f.length = 1 then
    s!"'utf-8' codec can't decode byte 0x{String.ofList (Text.hex 2 f.first.toNat)} " ++
      s!"in position {f.position}: {f.reason.message}"
  else
    s!"'utf-8' codec can't decode bytes " ++
      s!"in position {f.position}-{f.position + f.length - 1}: {f.reason.message}"

end Text.Utf8

inductive FileFault where
  | system (cause : SystemFault) (path : String)
  | encoding (fault : Text.Utf8.Fault)
  deriving DecidableEq, Repr

def FileFault.message : FileFault → String
  | .system cause path => cause.message path
  | .encoding fault => fault.message

inductive DocumentFault where
  | file (fault : FileFault)
  | standardInput (fault : Text.Utf8.Fault)
  | malformed (error : Json.SyntaxError)
  deriving DecidableEq, Repr

def DocumentFault.message : DocumentFault → String
  | .file fault => s!"failed to read file: {fault.message}"
  | .standardInput fault => s!"failed to read from STDIN: {fault.message}"
  | .malformed error => s!"failed to parse JSON: {error.message}"

end JsonTemplate
