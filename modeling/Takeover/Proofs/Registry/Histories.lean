/-
# Takeover.Proofs.Registry.Histories -- what happens to subscriptions

A journal tells which subscriptions were issued and released and what was broadcast, but
not when a receiving end was dropped.  A history tells both (`Happening`).  Whatever is
done to a cluster has a history (`Cluster.Befalls`), deed by deed, and so has every run
(`Reached.befalls`).

What has happened since a subscription was issued (`sinceIssued`) settles its fate: whether it
was released, whether its receiving end was dropped, and whether it was pruned, which the
first broadcast after that does.
-/
import Takeover.Proofs.Delivery

namespace Takeover

set_option autoImplicit false

variable {setup : Setup}

/-- Something that happens to a cluster. -/
inductive Happening (setup : Setup) where
  /-- A notice is written, and has its effect. -/
  | written (entry : Entry setup)
  /-- The receiving end of a subscription is dropped. -/
  | dropped (id : Membership.SubscriptionId)
deriving DecidableEq

/-! ## Reading a history -/

namespace Happening

/-- The subscription that is issued. -/
def issue? : Happening setup → Option Membership.SubscriptionId
  | .written ⟨_, _, .subscribed id⟩ => some id
  | _ => none

/-- Whether a subscription is released. -/
def releases (id : Membership.SubscriptionId) : Happening setup → Bool
  | .written entry => decide (entry.notice = .released id)
  | .dropped _ => false

/-- Whether the receiving end of a subscription is dropped. -/
def drops (id : Membership.SubscriptionId) : Happening setup → Bool
  | .written _ => false
  | .dropped other => decide (other = id)

/-- Whether something is broadcast. -/
def tells : Happening setup → Bool
  | .written entry => entry.notice.event?.isSome
  | .dropped _ => false

end Happening

section

variable (id : Membership.SubscriptionId)

/-- The subscriptions that were issued, in order. -/
def issuedIds (history : List (Happening setup)) : List Membership.SubscriptionId :=
  history.filterMap Happening.issue?

/-- What has happened since a subscription was issued. -/
def sinceIssued : List (Happening setup) → List (Happening setup)
  | [] => []
  | x :: rest => if x.issue? = some id then rest else sinceIssued rest

/-- Whether a broadcast came after the receiving end was dropped. -/
def prunes : List (Happening setup) → Bool
  | [] => false
  | x :: rest => x.drops id && rest.any Happening.tells || prunes rest

/-- Whether a subscription was released. -/
def wasReleased (history : List (Happening setup)) : Bool :=
  (sinceIssued id history).any (Happening.releases id)

/-- Whether the receiving end of a subscription was dropped. -/
def wasDropped (history : List (Happening setup)) : Bool :=
  (sinceIssued id history).any (Happening.drops id)

/-- Whether a subscription was pruned. -/
def wasPruned (history : List (Happening setup)) : Bool := prunes id (sinceIssued id history)

/-- Whether a subscription was issued, and neither released nor pruned. -/
def isCurrent (history : List (Happening setup)) : Bool :=
  decide (id ∈ issuedIds history) && !wasReleased id history && !wasPruned id history

variable {id} {history : List (Happening setup)}

/-- A subscription was pruned by the broadcasts that followed the drop of its receiving end. -/
theorem prunes_iff {entries : List (Happening setup)} : prunes id entries = true ↔
    ∃ before after, entries = before ++ .dropped id :: after ∧ ∃ x ∈ after, x.tells = true := by
  induction entries with
  | nil => simp [prunes]
  | cons x rest ih =>
      rw [prunes, Bool.or_eq_true, Bool.and_eq_true, ih]
      constructor
      · rintro (⟨drops, told⟩ | ⟨before, after, rfl, told⟩)
        · obtain rfl : x = .dropped id := by
            cases x with
            | written => exact absurd drops Bool.false_ne_true
            | dropped other => rw [of_decide_eq_true drops]
          exact ⟨[], rest, rfl, List.any_eq_true.1 told⟩
        · exact ⟨x :: before, after, rfl, told⟩
      · rintro ⟨before, after, split, told⟩
        cases before with
        | nil =>
            obtain ⟨rfl, rfl⟩ := List.cons.inj split
            exact .inl ⟨decide_eq_true rfl, List.any_eq_true.2 told⟩
        | cons y before =>
            obtain ⟨rfl, rfl⟩ := List.cons.inj split
            exact .inr ⟨before, after, rfl, told⟩

/-- One more happening prunes a subscription if it is a broadcast and the receiving end is gone. -/
theorem prunes_concat (entries : List (Happening setup)) (x : Happening setup) :
    prunes id (entries ++ [x]) =
      (prunes id entries || entries.any (Happening.drops id) && x.tells) := by
  induction entries with
  | nil => simp [prunes]
  | cons y rest ih =>
      simp only [List.cons_append, prunes, ih, List.any_append, List.any_cons, List.any_nil,
        Bool.or_false]
      cases y.drops id <;> cases x.tells <;> simp

theorem mem_issuedIds {entries : List (Happening setup)} :
    id ∈ issuedIds entries ↔ ∃ x ∈ entries, x.issue? = some id := List.mem_filterMap

@[simp] theorem issuedIds_append (first second : List (Happening setup)) :
    issuedIds (first ++ second) = issuedIds first ++ issuedIds second := List.filterMap_append

/-- What happens later happens since a subscription was issued. -/
theorem sinceIssued_append (own : id ∈ issuedIds history) (more : List (Happening setup)) :
    sinceIssued id (history ++ more) = sinceIssued id history ++ more := by
  induction history with
  | nil => exact absurd own List.not_mem_nil
  | cons x rest ih =>
      rw [List.cons_append, sinceIssued, sinceIssued]
      split
      · rfl
      · rename_i other
        refine ih ?_
        obtain ⟨y, mem, issued⟩ := mem_issuedIds.1 own
        rcases List.mem_cons.1 mem with rfl | mem
        · exact absurd issued other
        · exact mem_issuedIds.2 ⟨y, mem, issued⟩

/-- Nothing has happened yet since a subscription was issued just now. -/
theorem sinceIssued_eq_nil (never : id ∉ issuedIds history) {x : Happening setup}
    (issued : x.issue? = some id) : sinceIssued id (history ++ [x]) = [] := by
  induction history with
  | nil => rw [List.nil_append, sinceIssued, if_pos issued]
  | cons y rest ih =>
      rw [List.cons_append, sinceIssued,
        if_neg fun own => never (mem_issuedIds.2 ⟨y, List.mem_cons_self, own⟩)]
      refine ih fun own => never ?_
      obtain ⟨z, mem, own⟩ := mem_issuedIds.1 own
      exact mem_issuedIds.2 ⟨z, List.mem_cons_of_mem _ mem, own⟩

theorem wasReleased_concat (own : id ∈ issuedIds history) (x : Happening setup) :
    wasReleased id (history ++ [x]) = (wasReleased id history || x.releases id) := by
  rw [wasReleased, sinceIssued_append own]
  simp [wasReleased]

theorem wasDropped_concat (own : id ∈ issuedIds history) (x : Happening setup) :
    wasDropped id (history ++ [x]) = (wasDropped id history || x.drops id) := by
  rw [wasDropped, sinceIssued_append own]
  simp [wasDropped]

theorem wasPruned_concat (own : id ∈ issuedIds history) (x : Happening setup) :
    wasPruned id (history ++ [x]) = (wasPruned id history || wasDropped id history && x.tells) := by
  rw [wasPruned, sinceIssued_append own, prunes_concat]
  rfl

end

/-! ## Histories of clusters -/

namespace Cluster

/-- What befalls a cluster on the way to a later moment, in order. -/
inductive Befalls (c : Cluster setup) : List (Happening setup) → Cluster setup → Prop
  | refl : Befalls c [] c
  /-- A notice is written, and has its effect. -/
  | written {history : List (Happening setup)} {c' c'' : Cluster setup}
      (before : Befalls c history c') (scope : Scope setup) (notice : Notice setup)
      (fresh : ∀ id, notice = .subscribed id → id.number = c'.store.channels.length)
      (journal : c''.journal = c'.journal ++ [⟨c'.now, scope, notice⟩])
      (channels : c''.store.channels = notice.onChannels c'.store.channels) :
      Befalls c (history ++ [.written ⟨c'.now, scope, notice⟩]) c''
  /-- Nothing that concerns subscriptions. -/
  | aside {history : List (Happening setup)} {c' c'' : Cluster setup}
      (before : Befalls c history c') (journal : c''.journal = c'.journal)
      (channels : c''.store.channels = c'.store.channels) : Befalls c history c''
  /-- A subscriber receives. -/
  | received {history : List (Happening setup)} {c' c'' : Cluster setup}
      (before : Befalls c history c') (id : Membership.SubscriptionId) (count : Nat)
      (journal : c''.journal = c'.journal) (store : c''.store = c'.store.take id count) :
      Befalls c history c''
  /-- A subscriber drops its end. -/
  | dropped {history : List (Happening setup)} {c' c'' : Cluster setup}
      (before : Befalls c history c') (party : Option setup.ListenerId) (id : Membership.SubscriptionId)
      (own : id ∈ issued party c'.journal) (journal : c''.journal = c'.journal)
      (store : c''.store = c'.store.drop id) : Befalls c (history ++ [.dropped id]) c''

namespace Befalls

variable {licence : Licence setup} {c c' c'' : Cluster setup}
  {history more : List (Happening setup)}

theorem trans (first : Befalls c history c') (second : Befalls c' more c'') :
    Befalls c (history ++ more) c'' := by
  induction second with
  | refl => rwa [List.append_nil]
  | written _ scope notice fresh journal channels ih =>
      rw [← List.append_assoc]
      exact ih.written scope notice fresh journal channels
  | aside _ journal channels ih => exact ih.aside journal channels
  | received _ id count journal store ih => exact ih.received id count journal store
  | dropped _ party id own journal store ih =>
      rw [← List.append_assoc]
      exact ih.dropped party id own journal store

/-- The journal is continued with what a history says was written. -/
theorem journal (befalls : Befalls c history c') :
    ∃ new, c'.journal = c.journal ++ new ∧ issuedIds history = subscriptions new := by
  induction befalls with
  | refl => exact ⟨[], (List.append_nil _).symm, rfl⟩
  | @written _ c' _ _ scope notice fresh journal channels ih =>
      obtain ⟨new, same, issued⟩ := ih
      refine ⟨new ++ [⟨c'.now, scope, notice⟩], by rw [journal, same, List.append_assoc], ?_⟩
      rw [issuedIds_append, subscriptions_append, issued]
      congr 1
      cases notice <;> rfl
  | aside _ journal channels ih => exact ih.imp fun new h => ⟨journal.trans h.1, h.2⟩
  | received _ id count journal store ih => exact ih.imp fun new h => ⟨journal.trans h.1, h.2⟩
  | dropped _ party id own journal store ih =>
      obtain ⟨new, same, issued⟩ := ih
      exact ⟨new, journal.trans same, by rw [issuedIds_append, issued]; exact List.append_nil _⟩

/-- Every deed befalls a cluster. -/
theorem of_deed (deed : Deed licence c c') : ∃ history, Befalls c history c' := by
  cases deed with
  | written scope notice allowed fresh journal store subsystems now =>
      exact ⟨_, Befalls.refl.written scope notice fresh journal (by rw [store]; rfl)⟩
  | aside quiet members channels => exact ⟨_, Befalls.refl.aside quiet.journal channels⟩
  | received party id count allowed own quiet store =>
      exact ⟨_, Befalls.refl.received id count quiet.journal store⟩
  | dropped party id allowed own quiet store =>
      exact ⟨_, Befalls.refl.dropped party id own quiet.journal store⟩

theorem of_deeds (deeds : Deeds licence c c') : ∃ history, Befalls c history c' := by
  induction deeds with
  | refl => exact ⟨[], .refl⟩
  | tail _ deed ih =>
      obtain ⟨history, befalls⟩ := ih
      obtain ⟨more, befalls'⟩ := of_deed deed
      exact ⟨history ++ more, befalls.trans befalls'⟩

/-- A party that has had a turn: the task left the queue first, and what else changed at the end
is no concern of subscriptions. -/
theorem of_turn {queue : List (Task setup)} (deeds : Deeds licence { c with queue } c')
    (journal : c''.journal = c'.journal) (channels : c''.store.channels = c'.store.channels) :
    ∃ history, Befalls c history c'' := by
  obtain ⟨history, befalls⟩ := of_deeds deeds
  have popped : Befalls c [] { c with queue } := Befalls.refl.aside rfl rfl
  exact ⟨[] ++ history, (popped.trans befalls).aside journal channels⟩

end Befalls

/-- Every move befalls a cluster. -/
theorem Moves.befalls {c c' : Cluster setup} (moves : Moves c c') :
    ∃ history, Befalls c history c' := by
  cases moves with
  | changed untasked changes => exact Befalls.of_deeds changes.deeds
  | idled queue now => exact ⟨[], Befalls.refl.aside rfl rfl⟩
  | consumed queue first deeds dispatched last =>
      exact Befalls.of_turn ((first.deeds.trans deeds).trans last.deeds) rfl rfl
  | asked queue found due swept => exact Befalls.of_turn swept.changes.deeds rfl rfl
  | acted queue found delayed swept => exact Befalls.of_turn swept.changes.deeds rfl rfl

end Cluster

/-! ## Histories of runs -/

theorem Session.Run.befalls {s s' : Session setup} (run : Session.Run s)
    (steps : Session.Steps s s') : ∃ history, s.cluster.Befalls history s'.cluster := by
  induction steps with
  | refl => exact ⟨[], .refl⟩
  | tail before step ih =>
      obtain ⟨history, befalls⟩ := ih
      obtain ⟨more, befalls'⟩ := ((Session.Run.sound (run.trans before)).moves step).befalls
      exact ⟨history ++ more, befalls.trans befalls'⟩

namespace Scenario

/-- Every reached scenario has a history. -/
theorem Reached.befalls {s : Scenario setup} (reached : Reached s) :
    ∃ history, (Scenario.initial setup).cluster.Befalls history s.cluster :=
  Session.Run.befalls .refl reached.lawful.run

/-- Whatever comes of a reached scenario continues its history. -/
theorem Reached.befalls_leads {s s' : Scenario setup} (reached : Reached s) (leads : Leads s s') :
    ∃ more, s.cluster.Befalls more s'.cluster :=
  Session.Run.befalls reached.lawful.run (reached.lawful.leads leads).steps

end Scenario

end Takeover
