/-
# Takeover.Proofs.Conduct.Store -- licences, and what the operations of the store do

`Scope.MayWrite` says which notices the code of a scope may ever write: a start
registers its own node, subscribes, and gives back; a stop gives back; a sweep
concerns the subsystem in its slot; everything else is for the log.  From it each
party has its licence.

Every operation of the store either does what it is for or fails; when it fails,
at most a failure that was laid on the store is used up (`…_cases`).
-/
import Takeover.Cluster.Resume
import Takeover.Cluster.Work
import Takeover.Proofs.Deeds

namespace Takeover

set_option autoImplicit false

open Recovery (Kind Target Outcome Subsystem)

variable {setup : Setup}

/-! ## Licences -/

/-- A listener gives something back: a subscription, or the membership of its node. -/
def Notice.GivesBack (l : setup.ListenerId) (notice : Notice setup) : Prop :=
  (∃ id, notice = .released id) ∨ notice = .left (setup.node l) true

/-- The code of a scope may write a notice. -/
def Scope.MayWrite (scope : Scope setup) (notice : Notice setup) : Prop :=
  match scope with
  | .outside => True
  | .listener _ | .consuming _ => notice.isRemark = true
  | .starting l =>
      notice.isRemark = true ∨ notice.GivesBack l ∨ notice = .entered (setup.node l) ∨
        ∃ id, notice = .subscribed id
  | .stopping l => notice.isRemark = true ∨ notice.GivesBack l
  | .catchingUp l slot | .sweeping l slot _ =>
      notice.isRemark = true ∨ ∃ s, notice.subsystem? = some s ∧ (slot, s) ∈ setup.present l

theorem Scope.mayWrite_remark {notice : Notice setup} (remark : notice.isRemark = true)
    (scope : Scope setup) : scope.MayWrite notice := by
  cases scope <;> simp [Scope.MayWrite, remark]

namespace Licence

/-- Write as the code of some scopes. -/
def writing (scopes : Scope setup → Prop) : Licence setup where
  writes scope notice := scopes scope ∧ scope.MayWrite notice
  alters _ := False
  attends _ := False

/-- What reaches a cluster from outside. -/
def outside : Licence setup :=
  { writing fun scope => scope = .outside with attends := fun party => party = none }

/-- A listener gives back what it holds, as the code of a scope. -/
def returning (l : setup.ListenerId) (scope : Scope setup) : Licence setup where
  writes code notice := code = scope ∧ (notice.isRemark = true ∨ notice.GivesBack l)
  alters k := k = l
  attends _ := False

/-- One of a listener's startup sweeps. -/
def catchUp (l : setup.ListenerId) (slot : Kind) : Licence setup :=
  writing fun scope => scope = .catchingUp l slot

/-- A listener's startup sweeps. -/
def catchUps (l : setup.ListenerId) : Licence setup :=
  writing fun scope => ∃ slot, scope = .catchingUp l slot

/-- Whether a scope is a start's. -/
def OfStart (l : setup.ListenerId) (scope : Scope setup) : Prop :=
  scope = .listener l ∨ scope = .starting l ∨ ∃ slot, scope = .catchingUp l slot

/-- A listener's start. -/
def start (l : setup.ListenerId) : Licence setup :=
  { writing (OfStart l) with
    alters := fun k => k = l
    attends := fun party => party = some l }

/-- Whether a scope is a stop's. -/
def OfStop (l : setup.ListenerId) (scope : Scope setup) : Prop :=
  scope = .listener l ∨ scope = .stopping l

/-- A listener's stop. -/
def stop (l : setup.ListenerId) : Licence setup :=
  { writing (OfStop l) with alters := fun k => k = l }

/-- A listener's consumer. -/
def consumer (l : setup.ListenerId) : Licence setup :=
  { writing fun scope => scope = .consuming l with attends := fun party => party = some l }

/-- A dispatched sweep. -/
def sweep (d : Dispatch setup) : Licence setup := writing fun scope => scope = d.scope

/-- The end of the pool. -/
def pool : Licence setup where
  writes _ _ := False
  alters _ := False
  attends party := ∃ l, party = some l ∧ (setup.config l).pool = true

theorem returning_le_start (l : setup.ListenerId) :
    (returning l (.starting l)).Le (start l) where
  writes _ _ := by
    rintro ⟨rfl, remark | back⟩
    · exact ⟨.inr (.inl rfl), .inl remark⟩
    · exact ⟨.inr (.inl rfl), .inr (.inl back)⟩
  alters _ h := h
  attends _ h := absurd h id

theorem returning_le_stop (l : setup.ListenerId) :
    (returning l (.stopping l)).Le (stop l) where
  writes _ _ := by
    rintro ⟨rfl, allowed⟩
    exact ⟨.inr rfl, allowed⟩
  alters _ h := h
  attends _ h := h

theorem catchUp_le_catchUps (l : setup.ListenerId) (slot : Kind) :
    (catchUp l slot).Le (catchUps l) where
  writes _ _ := fun ⟨code, allowed⟩ => ⟨⟨slot, code⟩, allowed⟩
  alters _ h := h
  attends _ h := h

theorem catchUps_le_start (l : setup.ListenerId) : (catchUps l).Le (start l) where
  writes _ _ := fun ⟨code, allowed⟩ => ⟨.inr (.inr code), allowed⟩
  alters _ h := absurd h id
  attends _ h := absurd h id

end Licence
/-! ## Operations of the store

Each either does what it is for or fails; when it fails, at most a failure that
was laid on the store is used up. -/

namespace Membership.Store

variable (s : Store)

theorem connected_cases {α : Type} (operation : Operation) (body : Store → Store × Except Error α) :
    s.connected operation body = body s ∨
      ∃ failures, s.connected operation body =
        ({ s with failures }, .error (.connection operation)) := by
  unfold connected
  split
  · exact .inr ⟨_, rfl⟩
  · exact .inl rfl

theorem addMember_cases (node : NodeId) :
    s.addMember node =
        ({ s with members := s.members.insert node }.broadcast (.nodeAdded node), .ok ()) ∨
      ∃ error, s.addMember node = (s, .error error) := by
  unfold addMember
  split
  · exact .inr ⟨_, rfl⟩
  · exact .inl rfl

theorem removeMember_cases (node : NodeId) :
    s.removeMember node =
        ({ s with members := s.members.erase node }.broadcast (.nodeRemoved node), .ok ()) ∨
      ∃ error, s.removeMember node = (s, .error error) ∧ ¬node ∈ s.members := by
  unfold removeMember
  split
  · exact .inl rfl
  · exact .inr ⟨_, rfl, ‹_›⟩

theorem register_cases (node : NodeId) :
    s.register node =
        ({ s with members := s.members.insert node }.broadcast (.nodeAdded node), .ok ()) ∨
      ∃ error failures, s.register node = ({ s with failures }, .error error) := by
  rcases s.connected_cases .register fun s => s.addMember node with same | ⟨failures, same⟩
  · rcases s.addMember_cases node with added | ⟨error, refused⟩
    · exact .inl (same.trans added)
    · exact .inr ⟨error, s.failures, same.trans refused⟩
  · exact .inr ⟨_, failures, same⟩

/-- A node that was not deregistered was no member, unless the connection failed. -/
theorem deregister_cases (node : NodeId) :
    s.deregister node =
        ({ s with members := s.members.erase node }.broadcast (.nodeRemoved node), .ok ()) ∨
      ∃ error failures, s.deregister node = ({ s with failures }, .error error) ∧
        (¬node ∈ s.members ∨ error = .connection .deregister) := by
  rcases s.connected_cases .deregister fun s => s.removeMember node with same | ⟨failures, same⟩
  · rcases s.removeMember_cases node with removed | ⟨error, refused, absent⟩
    · exact .inl (same.trans removed)
    · exact .inr ⟨error, s.failures, same.trans refused, .inl absent⟩
  · exact .inr ⟨_, failures, same, .inr rfl⟩

theorem subscribe_cases :
    s.subscribe = ({ s with channels := s.channels ++ [{}] }, .ok ⟨s.channels.length⟩) ∨
      ∃ error failures, s.subscribe = ({ s with failures }, .error error) := by
  rcases s.connected_cases .subscribe fun s =>
    ({ s with channels := s.channels ++ [{}] }, .ok (SubscriptionId.mk s.channels.length)) with
    same | ⟨failures, same⟩
  · exact .inl same
  · exact .inr ⟨_, failures, same⟩

theorem release_cases (id : SubscriptionId) :
    s.release id = (s.modifyChannel id .close, .ok ()) ∨
      ∃ error failures, s.release id = ({ s with failures }, .error error) := by
  rcases s.connected_cases .release fun s =>
    if s.isClosed id then (s, .error (.unknownSubscription id))
    else (s.modifyChannel id .close, .ok ()) with same | ⟨failures, same⟩
  · by_cases closed : s.isClosed id = true
    · refine .inr ⟨.unknownSubscription id, s.failures, same.trans ?_⟩
      simp only [if_pos closed]
    · refine .inl (same.trans ?_)
      simp only [if_neg closed]
  · exact .inr ⟨_, failures, same⟩

theorem currentMembers_cases :
    s.currentMembers = (s, .ok s.members) ∨
      ∃ error failures, s.currentMembers = ({ s with failures }, .error error) := by
  rcases s.connected_cases .currentMembers fun s => (s, .ok s.members) with same | ⟨failures, same⟩
  · exact .inl same
  · exact .inr ⟨_, failures, same⟩

theorem channel?_broadcast (event : Event) (id : SubscriptionId) :
    (s.broadcast event).channel? id = (s.channel? id).map fun channel => channel.send event :=
  List.getElem?_map

theorem channel?_subscribed (id : SubscriptionId) :
    { s with channels := s.channels ++ [({} : Channel)] }.channel? id =
      if id.number = s.channels.length then some {} else s.channel? id := by
  unfold channel?
  by_cases new : id.number = s.channels.length
  · simp [new]
  · rw [if_neg new, List.getElem?_append]
    split
    · rfl
    · rename_i beyond
      rw [List.getElem?_eq_none_iff.2 (Nat.le_of_not_lt beyond), List.getElem?_eq_none_iff,
        List.length_singleton]
      omega

theorem waiting_subscribed (id : SubscriptionId) :
    { s with channels := s.channels ++ [({} : Channel)] }.waiting id = s.waiting id := by
  unfold waiting
  rw [channel?_subscribed]
  by_cases new : id.number = s.channels.length
  · rw [if_pos new, show s.channel? id = none by simp [channel?, new]]
  · rw [if_neg new]

theorem isClosed_of_subscribed {id : SubscriptionId}
    (closed : { s with channels := s.channels ++ [({} : Channel)] }.isClosed id = true) :
    s.isClosed id = true := by
  unfold isClosed at closed ⊢
  rw [channel?_subscribed] at closed
  by_cases new : id.number = s.channels.length
  · rw [show s.channel? id = none by simp [channel?, new]]
  · rwa [if_neg new] at closed

end Membership.Store

namespace Cluster

variable {licence : Licence setup} (c : Cluster setup)

/-- A consumer that has something to do had it before, if nothing more waits for it
and no more subscriptions are over. -/
theorem consumerReady_mono {c c' : Cluster setup} {l : setup.ListenerId}
    (listener : c'.listener l = c.listener l)
    (waiting : ∀ id, c.store.waiting id = [] → c'.store.waiting id = [])
    (closed : ∀ id, c'.store.isClosed id = true → c.store.isClosed id = true)
    (ready : c'.consumerReady l = true) : c.consumerReady l = true := by
  unfold consumerReady at ready ⊢
  rw [listener] at ready
  split at ready
  · rename_i id begun _
    have empty := waiting id
    have ended := closed id
    simp only [Bool.and_eq_true, Bool.or_eq_true, Bool.not_eq_true',
      List.isEmpty_eq_false_iff] at ready ⊢
    exact ⟨ready.1, ready.2.imp (Or.imp_right (mt empty)) ended⟩
  · exact absurd ready Bool.false_ne_true

/-- Only a failure that was laid on the store is used up. -/
theorem deed_failures (failures : List Membership.Operation) :
    Deed licence c { c with store := { c.store with failures } } :=
  .aside ⟨rfl, rfl, rfl⟩ rfl rfl

theorem changes_register {scope : Scope setup} {node : NodeId}
    (allowed : licence.writes scope (.entered node)) :
    Changes licence c (c.register scope node).1 := by
  unfold register
  rcases c.store.register_cases node with same | ⟨error, failures, same⟩
  · rw [same]
    exact Deed.changes_rouse
      (.written scope _ allowed (fun id h => nomatch h) rfl rfl (fun _ => rfl) rfl) rfl rfl rfl
  · rw [same]
    exact (c.deed_failures failures).changes_rouse rfl rfl rfl

theorem changes_deregister {scope : Scope setup} {node : NodeId}
    (allowed : licence.writes scope (.left node true)) :
    Changes licence c (c.deregister scope node).1 := by
  unfold deregister
  rcases c.store.deregister_cases node with same | ⟨error, failures, same, -⟩
  · rw [same]
    exact Deed.changes_rouse
      (.written scope _ allowed (fun id h => nomatch h) rfl rfl (fun _ => rfl) rfl) rfl rfl rfl
  · rw [same]
    exact (c.deed_failures failures).changes_rouse rfl rfl rfl

theorem changes_release {scope : Scope setup} {id : Membership.SubscriptionId}
    (allowed : licence.writes scope (.released id)) :
    Changes licence c (c.release scope id).1 := by
  unfold release
  rcases c.store.release_cases id with same | ⟨error, failures, same⟩
  · rw [same]
    exact Deed.changes_rouse
      (.written scope _ allowed (fun id h => nomatch h) rfl rfl (fun _ => rfl) rfl) rfl rfl rfl
  · rw [same]
    exact (c.deed_failures failures).changes_rouse rfl rfl rfl

/-- The live set is looked up, or the store is out of reach. -/
theorem currentMembers_cases : c.currentMembers = (c, .ok c.store.members) ∨
    ∃ error failures,
      c.currentMembers = ({ c with store := { c.store with failures } }, .error error) := by
  unfold currentMembers
  rcases c.store.currentMembers_cases with same | ⟨error, failures, same⟩
  · rw [same]
    exact .inl rfl
  · rw [same]
    exact .inr ⟨error, failures, rfl⟩

/-- Whoever is given a snapshot is given the live set, and the store is left alone. -/
theorem currentMembers_ok {live : NodeSet} (looked : c.currentMembers.2 = .ok live) :
    c.currentMembers.1 = c ∧ live = c.store.members := by
  rcases c.currentMembers_cases with same | ⟨error, failures, same⟩
  · rw [same] at looked ⊢
    exact ⟨rfl, (Except.ok.inj looked).symm⟩
  · rw [same] at looked
    exact nomatch looked

theorem changes_currentMembers : Changes licence c c.currentMembers.1 := by
  rcases c.currentMembers_cases with looked | ⟨error, failures, looked⟩
  · rw [looked]
    exact .refl _ _
  · rw [looked]
    exact (c.deed_failures failures).changes rfl rfl rfl fun _ ready => ready

/-- A subscription that is issued gives no consumer anything to do. -/
theorem changes_subscribe {scope : Scope setup}
    (allowed : ∀ id, licence.writes scope (.subscribed id)) :
    Changes licence c (c.subscribe scope).1 := by
  unfold subscribe
  rcases c.store.subscribe_cases with same | ⟨error, failures, same⟩
  · rw [same]
    refine Deed.changes (.written scope _ (allowed _) (fun id h => ?_) rfl rfl (fun _ => rfl) rfl)
      rfl rfl rfl fun k => ?_
    · obtain rfl := Notice.subscribed.inj h
      rfl
    · exact consumerReady_mono (c := c) rfl
        (fun id empty => (c.store.waiting_subscribed id).trans empty)
        (fun id closed => c.store.isClosed_of_subscribed closed)
  · rw [same]
    exact (c.deed_failures failures).changes rfl rfl rfl fun _ ready => ready
end Cluster

end Takeover
