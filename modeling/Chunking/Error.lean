import Chunking.Numbering
import Chunking.Pattern.Fault
import Chunking.Text.Quoted

/-!
# Errors

Everything that can be wrong with a request, one constructor per cause.
-/

namespace Chunking

inductive Error where
  | invalidSize (size : Nat)
  | overlapExceedsSize (size overlap : Nat)
  | unclosedTag (tag : UnclosedTag)
  | unknownStrategy (token : String)
  | invalidPattern (fault : Pattern.Fault)
  | invalidLevel (rank : Nat)
  | invalidTagName (letters : Text)
deriving DecidableEq

def Error.message : Error → String
  | .invalidSize size => "invalid chunk size: " ++ Text.decimal size ++ " (must be > 0)"
  | .overlapExceedsSize size overlap =>
      "overlap " ++ Text.decimal overlap ++ " exceeds chunk size " ++ Text.decimal size
  | .unclosedTag tag =>
      "invalid HTML: <" ++ String.ofList tag.name.letters ++ "> is not properly terminated"
  | .unknownStrategy token => "unknown chunking strategy " ++ token
  | .invalidPattern fault => "invalid delimiter pattern: " ++ fault.message
  | .invalidLevel _ => "header level must be in 1..=6"
  | .invalidTagName letters => "invalid tag name: " ++ String.ofList (Text.quote letters)

end Chunking
