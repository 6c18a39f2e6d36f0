-- The identity arena of a bridge: at most one wrapper for each native
-- object. Entries of owned wrappers do not keep them; entries of borrowed
-- wrappers do, until a sweep finds that no handle is left.
import NativeBridge.Dynamic.Handle
import NativeBridge.Table

namespace NativeBridge

/-- The wrappers of one bridge, by the object that they wrap. The
ownership of a wrapper says whether its entry keeps it. -/
structure Arena where
  entries : Table ObjectId ObjectWrapper := {}

namespace Arena

instance : Inhabited Arena := ⟨{}⟩

def find? (a : Arena) (o : ObjectId) : Option ObjectWrapper := a.entries.get? o

def insert (a : Arena) (w : ObjectWrapper) : Arena := ⟨a.entries.set w.object w⟩

def erase (a : Arena) (o : ObjectId) : Arena := ⟨a.entries.erase o⟩

def size (a : Arena) : Nat := a.entries.size

/-- The wrappers, in the order in which a sweep comes to them. -/
def wrappers (a : Arena) : List ObjectWrapper := a.entries.entries.map (·.2)

/-- The wrappers that the arena keeps. -/
def borrowed (a : Arena) : List ObjectWrapper :=
  a.wrappers.filter (·.ownership == .borrowed)

/-- Drops the entries whose wrappers meet a condition. -/
def eraseAll (a : Arena) (p : ObjectWrapper → Bool) : Arena :=
  ⟨a.entries.filter fun _ w => !p w⟩

end Arena

end NativeBridge
