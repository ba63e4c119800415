/-
# Takeover.Proofs.Exchange -- what is written is read back

Each kind of value that is exchanged has its forms in data: a node its text, an event
a record with one field, a lifecycle state its name or a record with one empty field
of that name.  Reading and writing keep to them (`Keeps`): a value is written in one of
its forms, and exactly the data in some form is read, as the value whose form it is.

So what was written is read back, what was read is written and read the same again,
and where a value has one form only, reading loses nothing (`exchanged`).  All other
data is declined: texts that are no name, records with no field, several fields, a
field of another name or with something else in it, and everything that is neither
text nor record.
-/
import Takeover.Data

namespace Takeover

set_option autoImplicit false

/-! ## Forms -/

/-- The name of a lifecycle state. -/
inductive ServiceState.Named : ServiceState → String → Prop where
  | new : Named .new "New"
  | starting : Named .starting "Starting"
  | running : Named .running "Running"
  | stopping : Named .stopping "Stopping"
  | terminated : Named .terminated "Terminated"
  | failed : Named .failed "Failed"

/-- A lifecycle state stands as its name, or as a record whose only field has that name and holds
nothing. -/
inductive ServiceState.Form : ServiceState → Data → Prop where
  | bare {state : ServiceState} {name : String} (named : Named state name) :
      Form state (.text name)
  | tagged {state : ServiceState} {name : String} (named : Named state name) :
      Form state (.record [(name, .null)])

/-- A node stands as its text. -/
inductive NodeId.Form : NodeId → Data → Prop where
  | text (id : String) : Form ⟨id⟩ (.text id)

/-- An event stands as a record whose only field is named for what happened and holds a text. -/
inductive Membership.Event.Form : Event → Data → Prop where
  | nodeAdded (id : String) : Form (.nodeAdded ⟨id⟩) (.record [("NodeAdded", .text id)])
  | nodeRemoved (id : String) : Form (.nodeRemoved ⟨id⟩) (.record [("NodeRemoved", .text id)])
  | channelError (reason : String) :
      Form (.channelError reason) (.record [("ChannelError", .text reason)])

/-! ## Keeping to a form -/

namespace Data

/-- Writing and reading keep to the forms of values. -/
structure Keeps {α : Type} (Form : α → Data → Prop) (encode : α → Data)
    (decode? : Data → Option α) : Prop where
  /-- A value is written in one of its forms. -/
  written : ∀ a, Form a (encode a)
  /-- Data is read as the value whose form it is. -/
  read : ∀ d a, decode? d = some a ↔ Form a d

namespace Keeps

variable {α : Type} {Form : α → Data → Prop} {encode : α → Data} {decode? : Data → Option α}

theorem returns (keeps : Keeps Form encode decode?) (a : α) : decode? (encode a) = some a :=
  (keeps.read _ a).2 (keeps.written a)

/-- Where a value has one form only, it is written as it was read. -/
theorem encode_of_read (keeps : Keeps Form encode decode?)
    (one : ∀ {a d d'}, Form a d → Form a d' → d = d') {d : Data} {a : α}
    (read : decode? d = some a) : encode a = d :=
  one (keeps.written a) ((keeps.read d a).1 read)

end Keeps

/-- Values pass through data unchanged, and only admitted data is read. -/
structure Exchanges {α : Type} (Form : α → Data → Prop) (encode : α → Data)
    (decode? : Data → Option α) (Admitted : Data → Prop) : Prop where
  keeps : Keeps Form encode decode?
  /-- What was written is read back. -/
  returns : ∀ a, decode? (encode a) = some a
  /-- Exactly the admitted data is read. -/
  admits : ∀ d, (decode? d).isSome = true ↔ Admitted d
  /-- What was read is the same when it is written and read again. -/
  again : ∀ d a, decode? d = some a → decode? (encode a) = some a

theorem Keeps.exchanges {α : Type} {Form : α → Data → Prop} {encode : α → Data}
    {decode? : Data → Option α} {Admitted : Data → Prop} (keeps : Keeps Form encode decode?)
    (admitted : ∀ {d}, (∃ a, Form a d) ↔ Admitted d) :
    Exchanges Form encode decode? Admitted where
  keeps := keeps
  returns := keeps.returns
  admits d := by
    rw [Option.isSome_iff_exists, ← admitted]
    exact exists_congr fun a => keeps.read d a
  again _ a _ := keeps.returns a

end Data

namespace ServiceState

theorem named_iff {state : ServiceState} {name : String} : Named state name ↔ name = state.tag := by
  constructor
  · rintro (_ | _ | _ | _ | _ | _) <;> rfl
  · rintro rfl
    cases state <;> constructor

theorem keeps : Data.Keeps Form encode decode? where
  written state := .bare (named_iff.2 rfl)
  read d state := by
    rw [decode?_eq_some_iff]
    constructor
    · rintro (rfl | rfl)
      · exact .bare (named_iff.2 rfl)
      · exact .tagged (named_iff.2 rfl)
    · rintro (named | named)
      · exact .inl (congrArg _ (named_iff.1 named))
      · obtain rfl := named_iff.1 named
        exact .inr rfl

/-- The names of lifecycle states. -/
def names : List String := ["New", "Starting", "Running", "Stopping", "Terminated", "Failed"]

theorem exists_named_iff {name : String} : (∃ state, Named state name) ↔ name ∈ names := by
  constructor
  · rintro ⟨state, _ | _ | _ | _ | _ | _⟩ <;> decide
  · intro mem
    simp only [names, List.mem_cons, List.not_mem_nil, or_false] at mem
    rcases mem with rfl | rfl | rfl | rfl | rfl | rfl
    · exact ⟨_, .new⟩
    · exact ⟨_, .starting⟩
    · exact ⟨_, .running⟩
    · exact ⟨_, .stopping⟩
    · exact ⟨_, .terminated⟩
    · exact ⟨_, .failed⟩

theorem exists_form_iff {d : Data} : (∃ state, Form state d) ↔
    ∃ name ∈ names, d = .text name ∨ d = .record [(name, .null)] := by
  constructor
  · rintro ⟨state, form⟩
    cases form with
    | bare named => exact ⟨_, exists_named_iff.1 ⟨state, named⟩, .inl rfl⟩
    | tagged named => exact ⟨_, exists_named_iff.1 ⟨state, named⟩, .inr rfl⟩
  · rintro ⟨name, mem, rfl | rfl⟩
    · obtain ⟨state, named⟩ := exists_named_iff.2 mem
      exact ⟨state, .bare named⟩
    · obtain ⟨state, named⟩ := exists_named_iff.2 mem
      exact ⟨state, .tagged named⟩

end ServiceState

namespace NodeId

theorem keeps : Data.Keeps Form encode decode? where
  written n := .text n.text
  read d n := by
    rw [decode?_eq_some_iff]
    constructor
    · rintro rfl
      exact .text n.text
    · rintro ⟨id⟩
      rfl

theorem Form.one {n : NodeId} {d d' : Data} (form : Form n d) (form' : Form n d') : d = d' := by
  obtain ⟨id⟩ := form
  obtain ⟨⟩ := form'
  rfl

theorem exists_form_iff {d : Data} : (∃ n, Form n d) ↔ ∃ id, d = .text id := by
  constructor
  · rintro ⟨-, ⟨id⟩⟩
    exact ⟨id, rfl⟩
  · rintro ⟨id, rfl⟩
    exact ⟨_, .text id⟩

end NodeId

namespace Membership.Event

theorem form_encode (event : Event) : Form event event.encode := by
  cases event with
  | nodeAdded node => exact .nodeAdded node.text
  | nodeRemoved node => exact .nodeRemoved node.text
  | channelError reason => exact .channelError reason

theorem Form.eq_encode {event : Event} {d : Data} (form : Form event d) : d = event.encode := by
  cases form <;> rfl

theorem keeps : Data.Keeps Form encode decode? where
  written := form_encode
  read d event := by
    rw [decode?_eq_some_iff]
    exact ⟨fun same => same ▸ form_encode event, Form.eq_encode⟩

/-- What an event can be. -/
def kinds : List String := ["NodeAdded", "NodeRemoved", "ChannelError"]

theorem exists_form_iff {d : Data} : (∃ event, Form event d) ↔
    ∃ kind ∈ kinds, ∃ detail, d = .record [(kind, .text detail)] := by
  constructor
  · rintro ⟨event, id | id | reason⟩
    · exact ⟨"NodeAdded", by decide, id, rfl⟩
    · exact ⟨"NodeRemoved", by decide, id, rfl⟩
    · exact ⟨"ChannelError", by decide, reason, rfl⟩
  · rintro ⟨kind, mem, detail, rfl⟩
    simp only [kinds, List.mem_cons, List.not_mem_nil, or_false] at mem
    rcases mem with rfl | rfl | rfl
    · exact ⟨_, .nodeAdded detail⟩
    · exact ⟨_, .nodeRemoved detail⟩
    · exact ⟨_, .channelError detail⟩

end Membership.Event

/-! ## The theorem -/

/-- **What is exchanged arrives.**  Lifecycle states, nodes and events are read back as they were
written; of all data, states are read from their names in two forms, nodes from texts, and events
from records with a known field that holds a text.  What was read as a node or as an event was
written so, and a state is always written as its bare name. -/
theorem Data.exchanged :
    Exchanges ServiceState.Form ServiceState.encode ServiceState.decode?
        (fun d => ∃ name ∈ ServiceState.names, d = .text name ∨ d = .record [(name, .null)]) ∧
      Exchanges NodeId.Form NodeId.encode NodeId.decode? (fun d => ∃ id, d = .text id) ∧
      Exchanges Membership.Event.Form Membership.Event.encode Membership.Event.decode?
        (fun d => ∃ kind ∈ Membership.Event.kinds, ∃ detail, d = .record [(kind, .text detail)]) ∧
      (∀ d n, NodeId.decode? d = some n → n.encode = d) ∧
      (∀ d event, Membership.Event.decode? d = some event → event.encode = d) ∧
      ∀ state name, ServiceState.Named state name → state.encode = .text name :=
  ⟨ServiceState.keeps.exchanges ServiceState.exists_form_iff,
    NodeId.keeps.exchanges NodeId.exists_form_iff,
    Membership.Event.keeps.exchanges Membership.Event.exists_form_iff,
    fun _ _ => NodeId.keeps.encode_of_read NodeId.Form.one,
    fun _ _ => Membership.Event.keeps.encode_of_read fun form form' =>
      form.eq_encode.trans form'.eq_encode.symm,
    fun _ _ named => congrArg Data.text (ServiceState.named_iff.1 named).symm⟩

/-- A state in its other form is read, and is the same when it is written as its name; an event is
written as it was read, and two fields are none. -/
theorem Data.exchanged_tagged :
    ServiceState.decode? (.record [("Running", .null)]) = some .running ∧
      ServiceState.decode? (.text "Running") = some .running ∧
      Membership.Event.decode? (.record [("NodeRemoved", .text "b")]) = some (.nodeRemoved ⟨"b"⟩) ∧
      Membership.Event.encode (.nodeRemoved ⟨"b"⟩) = .record [("NodeRemoved", .text "b")] ∧
      Membership.Event.decode? (.record [("NodeRemoved", .text "b"), ("NodeAdded", .text "b")]) =
        none := by
  obtain ⟨states, -, -, -, whole, -⟩ := Data.exchanged
  have running : ServiceState.decode? (.record [("Running", .null)]) = some .running := by decide
  have removed : Membership.Event.decode? (.record [("NodeRemoved", .text "b")]) =
      some (.nodeRemoved ⟨"b"⟩) := by decide
  exact ⟨running, states.again _ _ running, removed, whole _ _ removed, rfl⟩

end Takeover
