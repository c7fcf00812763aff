/-!
# Why a file could not be read or written
-/

namespace RecordFilter

/-- Why a file could not be read or written. -/
inductive FileFault
  | missing
  | isDirectory
  | notDirectory
  /-- The path or a part of it is longer than the system allows. -/
  | nameTooLong
  /-- The bytes of the file are no UTF-8 text. -/
  | notText
  /-- What the system says of any other cause. -/
  | other (reason : String)
deriving DecidableEq, Repr

/-- The fault as the system words it. -/
def FileFault.message : FileFault → String
  | missing => "No such file or directory (os error 2)"
  | isDirectory => "Is a directory (os error 21)"
  | notDirectory => "Not a directory (os error 20)"
  | nameTooLong => "File name too long (os error 36)"
  | notText => "stream did not contain valid UTF-8"
  | other reason => reason

/-- The text of a file. -/
def fileText (content : Except FileFault ByteArray) : Except FileFault String :=
  content.bind fun bytes =>
    match String.fromUTF8? bytes with
    | some text => .ok text
    | none => .error .notText

end RecordFilter
