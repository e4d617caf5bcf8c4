import HaxeBuild.Text.Basic

namespace HaxeBuild

/-- Why the operating system refuses a request. -/
inductive Refusal where
  | notFound
  | alreadyExists
  | isDirectory
  | notDirectory
  | notPermitted
  | tooManyLinks
  | nameTooLong
  | isLink
  | busy
  deriving DecidableEq

namespace Refusal

/-- The wording of the operating system. -/
def message : Refusal → Text
  | notFound => "No such file or directory"
  | alreadyExists => "File exists"
  | isDirectory => "Is a directory"
  | notDirectory => "Not a directory"
  | notPermitted => "Permission denied"
  | tooManyLinks => "Too many levels of symbolic links"
  | nameTooLong => "File name too long"
  | isLink => "Cannot call rmtree on a symbolic link"
  | busy => "Device or resource busy"

end Refusal

/-- A failure that is reported by its kind alone. -/
inductive Fault where
  | wrongType
  | noAttribute
  | badValue
  | missingKey
  | outOfRange
  | divisionByZero
  | overflow
  | undecodable
  | unencodable
  | unknownOperation
  | unresolvableLink
  | sameFile
  | unboundName
  | refused (why : Refusal)
  | reported (message : Text)
  deriving DecidableEq

end HaxeBuild
