/-
# Takeover.Proofs.Returning -- giving back

A start that failed and a stop give back what the listener holds.  A subscription
that is released is over, and a node that is deregistered is no member; where the
store refuses, the refusal is written down (`releaseSubscription_cases`,
`deregistered_deregisterNode`).

A start that fails tells its consumer to end, releases, waits for the consumer, and
deregisters last.  So the broadcast of its departure finds nobody at the other end
of a subscription whose release failed, and the store drops that one too
(`givenBack_finishUnwinding`).
-/
import Takeover.Proofs.Standing

namespace Takeover

set_option autoImplicit false

variable {setup : Setup}

/-- The code of a scope takes notes about a listener. -/
def Licence.noting (l : setup.ListenerId) (scope : Scope setup) : Licence setup where
  writes code notice := code = scope ∧ notice.isRemark = true
  alters k := k = l
  attends _ := False

theorem Licence.noting_le_returning (l : setup.ListenerId) (scope : Scope setup) :
    (Licence.noting l scope).Le (.returning l scope) where
  writes _ _ := fun ⟨code, remark⟩ => ⟨code, .inl remark⟩
  alters _ h := h
  attends _ h := h

namespace Cluster

variable {licence : Licence setup} {c c' : Cluster setup} {l : setup.ListenerId}

/-! ## Giving back -/

/-- A start that failed left nothing behind, unless the store refused to take it back. -/
structure GivenBack (c : Cluster setup) (l : setup.ListenerId) : Prop where
  failed : (c.listener l).state = .failed
  ended : (c.listener l).consumer.isOver = true
  /-- The subscription is not in the store, unless its release and the deregistration failed. -/
  subscription : ∀ id ∈ issued (some l) c.journal, c.store.isClosed id = true ∨
    (∃ cause, Wrote (.starting l) c.journal (.releaseFailed id cause)) ∧
      ∃ cause, Wrote (.starting l) c.journal (.deregisterFailed cause)
  /-- The node is no member, unless the connection failed when it was deregistered. -/
  member : Wrote (.starting l) c.journal (.entered (setup.node l)) →
    ¬setup.node l ∈ c.store.members ∨
      Wrote (.starting l) c.journal (.deregisterFailed (.connection .deregister))

@[simp] theorem listeners_deregisterNode (c : Cluster setup) (scope : Scope setup)
    (l : setup.ListenerId) : (c.deregisterNode scope l).listeners = c.listeners := by
  unfold deregisterNode deregister
  rcases (c.tell scope .deregistering).store.deregister_cases (setup.node l) with
    same | ⟨error, failures, same, -⟩ <;> rw [same] <;> rfl

/-- How the deregistration of a listener's node comes out: the node is no member and every channel
was sent the departure, or the failure was written down. -/
def Deregistered (scope : Scope setup) (l : setup.ListenerId) (c c' : Cluster setup) : Prop :=
  (¬setup.node l ∈ c'.store.members ∧
      ∀ id channel, c.store.channel? id = some channel →
        c'.store.channel? id = some (channel.send (.nodeRemoved (setup.node l)))) ∨
    ∃ cause, Wrote scope c'.journal (.deregisterFailed cause) ∧
      (¬setup.node l ∈ c'.store.members ∨ cause = .connection .deregister)

theorem deregistered_deregisterNode (c : Cluster setup) (scope : Scope setup)
    (l : setup.ListenerId) : Deregistered scope l c (c.deregisterNode scope l) := by
  unfold deregisterNode deregister
  rcases (c.tell scope .deregistering).store.deregister_cases (setup.node l) with
    same | ⟨error, failures, same, reason⟩
  · rw [same]
    refine .inl ⟨?_, fun id channel found => ?_⟩
    · show ¬setup.node l ∈ c.store.members.erase (setup.node l)
      simp
    · show (c.store.channels.map fun channel =>
        channel.send (.nodeRemoved (setup.node l)))[id.number]? = _
      rw [List.getElem?_map, show c.store.channels[id.number]? = some channel from found]
      rfl
  · rw [same]
    exact .inr ⟨error, ⟨_, List.mem_append_right _ (List.mem_singleton.2 rfl), rfl, rfl⟩, reason⟩

@[simp] theorem listeners_releaseSubscription (c : Cluster setup) (scope : Scope setup)
    (id : Membership.SubscriptionId) :
    (c.releaseSubscription scope id).1.listeners = c.listeners := by
  unfold releaseSubscription release
  rcases c.store.release_cases id with same | ⟨error, failures, same⟩ <;> rw [same] <;> rfl

/-- A subscription that was released is over; otherwise the failure was written down, and
nothing was released. -/
theorem releaseSubscription_cases (c : Cluster setup) (scope : Scope setup)
    (id : Membership.SubscriptionId) :
    ((c.releaseSubscription scope id).2 = true ∧
      (c.releaseSubscription scope id).1.store.isClosed id = true) ∨
      (c.releaseSubscription scope id).2 = false ∧
        ∃ e : Entry setup, (c.releaseSubscription scope id).1.journal = c.journal ++ [e] ∧
          e.scope = scope ∧ ∃ cause, e.notice = .releaseFailed id cause := by
  unfold releaseSubscription release
  rcases c.store.release_cases id with same | ⟨error, failures, same⟩
  · rw [same]
    refine .inl ⟨rfl, ?_⟩
    show (c.store.modifyChannel id .close).isClosed id = true
    have after := c.store.channel?_modifyChannel id id .close
    rw [if_pos rfl] at after
    unfold Membership.Store.isClosed
    rw [after]
    cases c.store.channel? id <;> rfl
  · rw [same]
    exact .inr ⟨rfl, _, rfl, rfl, error, rfl⟩

/-- Giving back issues nothing. -/
theorem Changes.issued_returning {scope : Scope setup}
    (changes : Changes (.returning l scope) c c') (party : Option setup.ListenerId) :
    issued party c'.journal = issued party c.journal := by
  refine changes.deeds.issued_eq ?_
  rintro code id - ⟨-, remark | ⟨other, released⟩ | left⟩
  · simp [Notice.isRemark] at remark
  · simp at released
  · simp at left

/-- Giving back registers nothing. -/
theorem Changes.entered_returning {scope : Scope setup}
    (changes : Changes (.returning l scope) c c') {code : Scope setup} {node : NodeId}
    (entered : Wrote code c'.journal (.entered node)) : Wrote code c.journal (.entered node) := by
  obtain ⟨new, journal, allowed⟩ := changes.journal_eq
  obtain ⟨e, mem, here, notice⟩ := entered
  rw [journal] at mem
  rcases List.mem_append.1 mem with mem | mem
  · exact ⟨e, mem, here, notice⟩
  · obtain ⟨-, remark | ⟨id, released⟩ | left⟩ := allowed e mem
    · simp [notice, Notice.isRemark] at remark
    · simp [notice] at released
    · simp [notice] at left

/-- A note is taken. -/
theorem changes_noting (c : Cluster setup) (l : setup.ListenerId) (scope : Scope setup)
    (notice : Notice setup) (remark : notice.isRemark = true) :
    Changes (.noting l scope) c (c.tell scope notice) :=
  c.changes_tell ⟨rfl, remark⟩ remark

theorem not_released_of_remark {notice : Notice setup} (remark : notice.isRemark = true)
    (id : Membership.SubscriptionId) : notice ≠ .released id := by
  rintro rfl
  exact Bool.false_ne_true remark

theorem Changes.wrote (changes : Changes licence c c') {scope : Scope setup}
    {notice : Notice setup} (wrote : Wrote scope c.journal notice) :
    Wrote scope c'.journal notice := by
  obtain ⟨new, journal, -⟩ := changes.journal_eq
  exact journal ▸ wrote.append new

theorem Attends.returning {scope : Scope setup} (attends : Attends c l) (recorded : Recorded c)
    (changes : Changes (.returning l scope) c c') : Attends c' l := by
  refine attends.of_changes recorded changes (fun h => h) ?_
  rintro code id - ⟨-, remark | ⟨other, released⟩ | left⟩
  · simp [Notice.isRemark] at remark
  · simp at released
  · simp at left

@[simp] theorem store_advance (c : Cluster setup) (scope : Scope setup) (l : setup.ListenerId)
    (there : ServiceState) : (c.advance scope l there).store = c.store := by
  unfold advance
  dsimp only
  split <;> rfl

theorem listener_advance {scope : Scope setup} {there : ServiceState}
    (legal : (c.listener l).state.leadsTo there = true) :
    (c.advance scope l there).listener l = (c.listener l).moveTo there := by
  unfold advance
  dsimp only
  rw [if_pos legal]
  exact c.listener_modifyListener_self l fun listener => listener.moveTo there

theorem listener_halt (c : Cluster setup) (l : setup.ListenerId) :
    (c.halt l).listener l = { c.listener l with halted := true } :=
  c.listener_modifyListener_self l fun listener => { listener with halted := true }

/-! ## A start that failed -/

/-- What a start that failed still holds when it has released its subscription. -/
structure Unwound (c : Cluster setup) (l : setup.ListenerId) : Prop where
  state : (c.listener l).state = .starting
  registered : Registered c l ∨ (c.listener l).registered = false ∧
    issued (some l) c.journal = [] ∧ ¬Wrote (.starting l) c.journal (.entered (setup.node l))
  released : ∀ id ∈ issued (some l) c.journal, c.store.isClosed id = true ∨
    ∃ cause, Wrote (.starting l) c.journal (.releaseFailed id cause)

/-- Somebody whose receiving end is gone loses the subscription at the next event. -/
theorem Attends.isClosed_send (attends : Attends c l) (ended : (c.listener l).consumer.isOver = true)
    {id : Membership.SubscriptionId} (own : id ∈ issued (some l) c.journal)
    (event : Membership.Event)
    (sent : ∀ id channel, c.store.channel? id = some channel →
      c'.store.channel? id = some (channel.send event)) : c'.store.isClosed id = true := by
  cases attends with
  | idle none absent unasked => simp [none] at own
  | reads other channel one found reads =>
      obtain rfl : id = other := by simpa [one] using own
      have dropped : channel.held = false := by simp [reads.held, ended]
      rw [Membership.Store.isClosed_eq (sent id channel found)]
      unfold Membership.Channel.send
      cases listed : channel.listed <;> simp [dropped, listed]

/-- What is done after a deregistration without the store does not undo it. -/
theorem Deregistered.later {scope : Scope setup} {b c₁ : Cluster setup}
    (deregistered : Deregistered scope l c c₁) (before : b.store = c.store)
    (after : c'.store = c₁.store) (changes : Changes licence c₁ c') :
    Deregistered scope l b c' := by
  unfold Deregistered
  rw [before, after]
  rcases deregistered with told | ⟨cause, failed, reason⟩
  · exact .inl told
  · exact .inr ⟨cause, changes.wrote failed, reason⟩

/-- A start that failed gave everything back when it deregistered its node at the end. -/
theorem givenBack_of_deregistered (recorded : Recorded c) (attends : Attends c l)
    (unwound : Unwound c l) (ended : (c.listener l).consumer.isOver = true)
    (changes : Changes (.returning l (.starting l)) c c') (failed : (c'.listener l).state = .failed)
    (deregistered : Deregistered (.starting l) l c c') : GivenBack c' l where
  failed := failed
  ended := by
    rw [changes.consumer l fun h => h]
    exact ended
  subscription := by
    intro id own
    rw [changes.issued_returning] at own
    rcases unwound.released id own with closed | ⟨cause, wrote⟩
    · exact .inl (recorded.closed_of_deeds changes.deeds own closed)
    · rcases deregistered with ⟨-, sent⟩ | ⟨cause', refused, -⟩
      · exact .inl (attends.isClosed_send ended own _ sent)
      · exact .inr ⟨⟨cause, changes.wrote wrote⟩, cause', refused⟩
  member := by
    intro _
    rcases deregistered with ⟨absent, -⟩ | ⟨cause, refused, absent | rfl⟩
    · exact .inl absent
    · exact .inl absent
    · exact .inr refused

/-- A start that had not registered its node has nothing to give back. -/
theorem givenBack_of_unregistered (ended : (c.listener l).consumer.isOver = true)
    (changes : Changes (.returning l (.starting l)) c c') (failed : (c'.listener l).state = .failed)
    (none : issued (some l) c.journal = [])
    (never : ¬Wrote (.starting l) c.journal (.entered (setup.node l))) : GivenBack c' l where
  failed := failed
  ended := by
    rw [changes.consumer l fun h => h]
    exact ended
  subscription := by
    intro id own
    rw [changes.issued_returning, none] at own
    exact absurd own List.not_mem_nil
  member := fun entered => absurd (changes.entered_returning entered) never

/-- A start that leaves its listener failed. -/
theorem state_advance_failed (starting : (c.listener l).state = .starting) :
    (((c.advance (.starting l) l .failed).tell (.starting l) .startLeft).listener l).state =
      .failed := by
  have legal : (c.listener l).state.leadsTo .failed = true := by
    simp [starting, ServiceState.leadsTo]
  exact congrArg Listener.state (listener_advance legal)

theorem givenBack_finishUnwinding (recorded : Recorded c) (attends : Attends c l)
    (unwound : Unwound c l) (ended : (c.listener l).consumer.isOver = true)
    (error : Listener.Error) : GivenBack (c.finishUnwinding l error).1 l := by
  have changes := c.changes_finishUnwinding l error
  unfold finishUnwinding at changes ⊢
  dsimp only at changes ⊢
  -- that the consumer was cancelled is only written down, so what follows starts from `c` as it was
  generalize complained : (if (c.listener l).consumer = .cancelled then
    c.tell (.starting l) (.consumerCancelled .warn) else c) = c₁ at changes ⊢
  have store₁ : c₁.store = c.store := by
    rw [← complained]
    split <;> rfl
  have listener₁ : c₁.listener l = c.listener l := by
    rw [← complained]
    split <;> rfl
  rcases unwound.registered with registered | ⟨unregistered, none, never⟩
  · simp only [listener₁, registered.registered, if_true] at changes ⊢
    let f : Listener → Listener := fun listener => { listener with registered := false }
    generalize given : (c₁.modifyListener l f).deregisterNode (.starting l) l = c₂ at changes ⊢
    have state₂ : (c₂.listener l).state = .starting := by
      rw [← given, listener_congr (listeners_deregisterNode _ _ _), listener_modifyListener_self,
        listener₁]
      exact unwound.state
    have last : Changes (.returning l (.starting l)) c₂
        ((c₂.advance (.starting l) l .failed).tell (.starting l) .startLeft) :=
      (c₂.changes_advance rfl (returning_remark l _) .failed).trans
        (changes_tell _ (returning_remark l _ _ rfl) rfl)
    have deregistered : Deregistered (.starting l) l (c₁.modifyListener l f) c₂ :=
      given ▸ deregistered_deregisterNode _ _ _
    refine givenBack_of_deregistered recorded attends unwound ended changes
      (state_advance_failed state₂) (deregistered.later ?_ ?_ last)
    · rw [store_modifyListener, store₁]
    · rw [store_tell, store_advance]
  · simp only [listener₁, unregistered, Bool.false_eq_true, if_false] at changes ⊢
    have state₁ : (c₁.listener l).state = .starting := by
      rw [listener₁]
      exact unwound.state
    exact givenBack_of_unregistered ended changes (state_advance_failed state₁) none never

end Cluster

end Takeover
