import Coffer.Shell

/-!
What happens to a dialogue. Its questions are replied to, and while one waits, time passes and the
surroundings of the program change. A run of the dialogue is the fold of all that happens, in order.
-/

namespace Coffer

inductive Happening where
  /-- The reply itself. -/
  | reply (r : Reply)
  /-- It has become that late. -/
  | clock (now : Timestamp)
  /-- Space on the disk runs out, or there is some again. -/
  | diskFull (isFull : Bool)
  /-- The clipboard breaks, for a reason, or works again. -/
  | clipboardFault (fault : Option String)
  /-- Someone else writes to the clipboard. -/
  | clipboardWritten (text : String)
  /-- The time of the copied value at an index, among those still to be cleared, runs out. -/
  | timeout (index : Nat)
deriving DecidableEq, Repr

namespace Shell

/-- Lets the time of a copied value run out. -/
def fireTimer (sh : Shell) (index : Nat) : Shell :=
  match sh.clipboard.fire index with
  | (clipboard, none) => { sh with clipboard }
  | (clipboard, some reason) => { sh with clipboard }.note (.clipboardNotCleared reason)

def react : Stage × Shell → Happening → Stage × Shell
  | (stage, sh), .reply r => sh.reply stage r
  | (stage, sh), .clock now => (stage, { sh with world := { sh.world with now } })
  | (stage, sh), .diskFull isFull =>
    (stage, { sh with world := { sh.world with disk := { sh.world.disk with isFull } } })
  | (stage, sh), .clipboardFault fault =>
    (stage, { sh with clipboard := { sh.clipboard with fault } })
  | (stage, sh), .clipboardWritten text =>
    (stage, { sh with clipboard := sh.clipboard.overwrite text })
  | (stage, sh), .timeout index => (stage, sh.fireTimer index)

def run (start : Stage × Shell) (hs : List Happening) : Stage × Shell :=
  hs.foldl react start

end Shell

end Coffer
