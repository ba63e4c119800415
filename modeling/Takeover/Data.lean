/-
# Takeover.Data -- self-describing data

Nodes, lifecycle states and membership events are exchanged as self-describing
data: texts, numbers, lists and records of named fields.

* A node is its text.
* A lifecycle state is its tag, or a record whose only field is named by the tag
  and holds nothing; it is always written as the bare tag.
* An event is a record whose only field is named by the kind of the event and
  holds its detail.

`decode?_encode` says that what is written reads back, and the `_eq_some_iff`
lemmas say exactly which data is read as what.
-/
import Takeover.Membership.Event
import Takeover.ServiceState

namespace Takeover

set_option autoImplicit false

/-- Self-describing data.  A number is `mantissa / 10 ^ exponent`. -/
inductive Data where
  | null
  | flag (value : Bool)
  | number (mantissa : Int) (exponent : Nat)
  | text (text : String)
  | list (items : List Data)
  | record (fields : List (String × Data))
deriving Inhabited

namespace NodeId

/-- A node as data. -/
def encode (n : NodeId) : Data := .text n.text

/-- The node that data stands for. -/
def decode? : Data → Option NodeId
  | .text text => some ⟨text⟩
  | _ => none

@[simp] theorem decode?_encode (n : NodeId) : decode? n.encode = some n := rfl

theorem decode?_eq_some_iff {d : Data} {n : NodeId} : decode? d = some n ↔ d = n.encode := by
  refine ⟨fun h => ?_, fun h => h ▸ decode?_encode n⟩
  unfold decode? at h
  split at h
  · rw [← Option.some.inj h]; rfl
  · exact absurd h (Option.some_ne_none n).symm

end NodeId

namespace ServiceState

/-- A lifecycle state as data. -/
def encode (state : ServiceState) : Data := .text state.tag

/-- The lifecycle state that data stands for. -/
def decode? : Data → Option ServiceState
  | .text tag => ofTag? tag
  | .record [(tag, .null)] => ofTag? tag
  | _ => none

@[simp] theorem decode?_encode (state : ServiceState) : decode? state.encode = some state :=
  ofTag?_tag state

theorem decode?_eq_some_iff {d : Data} {state : ServiceState} :
    decode? d = some state ↔ d = .text state.tag ∨ d = .record [(state.tag, .null)] := by
  constructor
  · intro h
    unfold decode? at h
    split at h
    · rw [ofTag?_eq_some_iff.1 h]; exact .inl rfl
    · rw [ofTag?_eq_some_iff.1 h]; exact .inr rfl
    · exact absurd h (Option.some_ne_none state).symm
  · rintro (rfl | rfl)
    · exact ofTag?_tag state
    · exact ofTag?_tag state

end ServiceState

namespace Membership.Event

/-- An event as data. -/
def encode (event : Event) : Data := .record [(event.tag, .text event.detail)]

/-- The event that data stands for. -/
def decode? : Data → Option Event
  | .record [(tag, .text detail)] => ofTag? tag detail
  | _ => none

@[simp] theorem decode?_encode (event : Event) : decode? event.encode = some event :=
  ofTag?_tag event

theorem decode?_eq_some_iff {d : Data} {event : Event} :
    decode? d = some event ↔ d = event.encode := by
  refine ⟨fun h => ?_, fun h => h ▸ decode?_encode event⟩
  unfold decode? at h
  split at h
  · obtain ⟨same, same'⟩ := ofTag?_eq_some_iff.1 h
    rw [same, same']; rfl
  · exact absurd h (Option.some_ne_none event).symm

end Membership.Event

end Takeover
