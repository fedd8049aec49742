/-!
# Faults

What can go wrong, by cause. `Fault.message` is the text that a report of the fault shows.
-/

namespace QuickLaunch

/-- A cause of failure. -/
inductive Fault where
  /-- No file or directory has the path. -/
  | noSuchFile
  /-- A directory stands where a file is wanted. -/
  | isDirectory
  /-- A file stands where a directory is wanted. -/
  | notDirectory
  /-- A file stands where a directory is to be made. -/
  | alreadyExists
  /-- A name or a path is longer than the file system takes. -/
  | nameTooLong
  /-- A path has a null character. -/
  | nullCharacter
  /-- The system would not start a process. -/
  | refused (reason : String)
  /-- A quotation of a command is not closed. -/
  | unclosedQuotation
  /-- A command ends behind an escape character. -/
  | nothingEscaped
  /-- A word of a command line is no text. -/
  | wordNotText (kindName : String)
  /-- An action of a kind that cannot be run. -/
  | unsupportedAction (typeName : String)
  /-- A document does not follow its format. -/
  | malformedDocument
  /-- A document has a whole number of so many digits, which is too many. -/
  | numberTooLong (digits : Nat)
  /-- A file is not UTF-8 text. -/
  | notUtf8
  /-- A settings file does not follow its format. -/
  | malformedSettings
  /-- No log level has the name. -/
  | unknownLevel (name : String)
  /-- No home directory is known for a path. -/
  | noHome
  /-- A file pattern is an absolute path. -/
  | absolutePattern
  /-- A double star stands beside other characters in a file pattern. -/
  | brokenDoubleStar
  /-- A value is of a kind that cannot be used in its place. -/
  | wrongKind
  /-- A value that is no table was asked for an entry, or one that is no text for its letters. -/
  | noSuchPart
  /-- A position lies outside a list. -/
  | outOfRange
  deriving DecidableEq, Repr, Inhabited

/-- The text that reports a fault. -/
def Fault.message : Fault → String
  | .noSuchFile => "No such file or directory"
  | .isDirectory => "Is a directory"
  | .notDirectory => "Not a directory"
  | .alreadyExists => "File exists"
  | .nameTooLong => "File name too long"
  | .nullCharacter => "embedded null byte"
  | .refused reason => reason
  | .unclosedQuotation => "No closing quotation"
  | .nothingEscaped => "No escaped character"
  | .wordNotText kindName => s!"expected str, bytes or os.PathLike object, not {kindName}"
  | .unsupportedAction typeName => s!"unsupported action type {typeName}"
  | .malformedDocument => "malformed document"
  | .numberTooLong digits =>
    "Exceeds the limit (4300 digits) for integer string conversion: value has " ++ toString digits
      ++ " digits; use sys.set_int_max_str_digits() to increase the limit"
  | .notUtf8 => "not UTF-8 text"
  | .malformedSettings => "malformed settings"
  | .unknownLevel name => s!"Level '{name}' does not exist"
  | .noHome => "Could not determine home directory."
  | .absolutePattern => "Non-relative patterns are unsupported"
  | .brokenDoubleStar => "Invalid pattern: '**' can only be an entire path component"
  | .wrongKind => "value of a wrong kind"
  | .noSuchPart => "no such part"
  | .outOfRange => "list index out of range"

end QuickLaunch
