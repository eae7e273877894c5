/-!
The kinds of errors that have no type of their own. Who is ready for such an error is ready for its
kind, and lets the others pass.
-/

namespace Coffer

inductive ErrorKind where
  | value
  | type
  | key
  | attribute
  | overflow
  | encoding
deriving DecidableEq, Repr

def ErrorKind.name : ErrorKind → String
  | .value => "ValueError"
  | .type => "TypeError"
  | .key => "KeyError"
  | .attribute => "AttributeError"
  | .overflow => "OverflowError"
  | .encoding => "UnicodeEncodeError"

end Coffer
