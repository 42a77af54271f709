import SchemaFragments.Regex.Compile
import SchemaFragments.Files.Tree

/-! # Failures

Every way in which a run can end without success, with its message and the message of its cause if
it has one. -/

namespace SchemaFragments

/-- The two patterns that a caller can choose. -/
inductive PatternOption where
  | block
  | name
  deriving DecidableEq, Repr

/-- The command line option that sets the pattern. -/
def PatternOption.flag : PatternOption → Text
  | block => "--fragment-regex"
  | name => "--fragment-name-regex"

/-- Why a run fails. -/
inductive Failure where
  | invalidPattern (option : PatternOption) (pattern : Text) (fault : Regex.CompileFault)
  | namelessBlock (excerpt : Text)
  | unreadableSchema (path : Path) (fault : FileFault)
  | createFolder (path : Path) (fault : FileFault)
  | write (path : Path) (fault : FileFault)
  | remove (path : Path) (fault : FileFault)
  deriving DecidableEq, Repr

namespace Failure

/-- What failed. -/
def message : Failure → Text
  | invalidPattern option _ _ => "invalid regular expression passed to " ++ option.flag
  | namelessBlock excerpt => "fragment name pattern produced no name for block '" ++ excerpt ++ "'"
  | unreadableSchema path _ => "failed to read schema file '" ++ path ++ "'"
  | createFolder path _ => "failed to create directory '" ++ path ++ "'"
  | write path _ => "failed to write '" ++ path ++ "'"
  | remove path _ => "failed to remove stale file '" ++ path ++ "'"

/-- Why it failed, if something else is to blame. -/
def cause? : Failure → Option Text
  | invalidPattern _ pattern fault => some (fault.message pattern)
  | namelessBlock _ => none
  | unreadableSchema _ fault => some fault.message
  | createFolder _ fault => some fault.message
  | write _ fault => some fault.message
  | remove _ fault => some fault.message

end Failure

end SchemaFragments
