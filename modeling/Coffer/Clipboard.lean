/-!
The clipboard. A copied value is cleared after a while, unless the clipboard holds something else by
then. That its time runs out is one event: between looking at what the clipboard holds and clearing
it, nothing else happens.
-/

namespace Coffer

/-- The clipboard: what it holds, why it cannot be used if it cannot, and the values that are still
to be cleared, in the order of copying. -/
structure Clipboard where
  content : String := ""
  fault : Option String := none
  pending : List String := []
deriving DecidableEq, Repr

namespace Clipboard

/-- Copies a text, and has it cleared later if `timeout` is not 0. -/
def copy (c : Clipboard) (text : String) (timeout : Nat) : Except String Clipboard :=
  match c.fault with
  | some reason => .error reason
  | none =>
    .ok { c with
      content := text
      pending := if timeout > 0 then c.pending ++ [text] else c.pending }

def clear (c : Clipboard) (text : String) : Except String Clipboard :=
  match c.fault with
  | some reason => .error reason
  | none => .ok (if c.content = text then { c with content := "" } else c)

/-- The clipboard after someone else wrote to it. -/
def overwrite (c : Clipboard) (text : String) : Clipboard :=
  { c with content := text }

/-- Lets the time of the pending text at an index run out: it is cleared, and no longer pending.
What kept it from being cleared, if anything did, is told. -/
def fire (c : Clipboard) (i : Nat) : Clipboard × Option String :=
  match c.pending[i]? with
  | none => (c, none)
  | some text =>
    let rest := { c with pending := c.pending.eraseIdx i }
    match rest.clear text with
    | .ok c => (c, none)
    | .error reason => (rest, some reason)

end Clipboard

end Coffer
