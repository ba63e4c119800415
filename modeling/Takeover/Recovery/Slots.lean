/-
# Takeover.Recovery.Slots -- the subsystems a deployment runs

There is one optional slot for each kind of subsystem; an empty slot means that
the deployment does not run it.  The slots are visited through `present`, in the
order of the kinds.  `check` finds the first subsystem that is not of the kind
of its slot.
-/
import Takeover.Recovery.Error

namespace Takeover.Recovery

set_option autoImplicit false

/-- One optional subsystem for each kind. -/
structure Slots (α : Type) where
  task : Option α := none
  transaction : Option α := none
  readerGroup : Option α := none
deriving DecidableEq, Repr, Inhabited

namespace Slots

variable {α : Type}

/-- No subsystem at all. -/
def empty : Slots α := {}

/-- What is in the slot of a kind. -/
def get? (s : Slots α) : Kind → Option α
  | .task => s.task
  | .transaction => s.transaction
  | .readerGroup => s.readerGroup

/-- Fill the slot of a kind. -/
def put (s : Slots α) (slot : Kind) (x : α) : Slots α :=
  match slot with
  | .task => { s with task := some x }
  | .transaction => { s with transaction := some x }
  | .readerGroup => { s with readerGroup := some x }

/-- The filled slots with what is in them, in the order of the kinds. -/
def present (s : Slots α) : List (Kind × α) :=
  Kind.all.filterMap fun slot => (s.get? slot).map fun x => (slot, x)

/-- How many slots are filled. -/
def size (s : Slots α) : Nat := s.present.length

/-- Whether no slot is filled. -/
def isEmpty (s : Slots α) : Bool := s.present.isEmpty

/-- The first filled slot whose subsystem is of another kind is an error. -/
def check (s : Slots α) (kindOf : α → Kind) : Except Error Unit :=
  match s.present.find? fun (slot, x) => decide (kindOf x ≠ slot) with
  | some (slot, x) => .error (.misplacedSubsystem slot (kindOf x))
  | none => .ok ()

/-- The kinds of the filled slots as developers read them. -/
def debugText (s : Slots α) : String :=
  "[" ++ ", ".intercalate (s.present.map fun (slot, _) => slot.debugText) ++ "]"

end Slots

end Takeover.Recovery
