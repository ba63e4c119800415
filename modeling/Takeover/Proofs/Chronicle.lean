/-
# Takeover.Proofs.Chronicle -- what a journal tells

A notice tells how the live set, the channels and each subsystem change
(`Notice.onStore`, `Notice.onSubsystem`), which event was broadcast
(`Notice.event?`), and which sweep was asked for (`Entry.ask?`).  Reading a
journal from its beginning therefore gives back

* `live`, the live set;
* `told`, the state of a subsystem;
* `issued`, the subscriptions that a party was given;
* `during`, the events broadcast while the store had a subscription;
* `asks`, the sweeps that were asked for, in order.

All of these are read off the notices alone.  That the running cluster agrees
with them is another matter (`Recorded`).
-/
import Takeover.Cluster.Basic

namespace Takeover

set_option autoImplicit false

open Recovery (Kind Target Recovered Outcome Subsystem Ledger Backing)

/-! ## Continued lists -/

section Continued

variable {α : Type} {P : α → Prop} {xs ys zs : List α}

/-- A list that is left as it is is continued with nothing. -/
theorem continued_of_eq (same : ys = xs) : ∃ new, ys = xs ++ new ∧ ∀ a ∈ new, P a :=
  ⟨[], by rw [same, List.append_nil], fun _ mem => absurd mem List.not_mem_nil⟩

/-- A list that is continued twice is continued with what was added each time. -/
theorem continued_trans (first : ∃ new, ys = xs ++ new ∧ ∀ a ∈ new, P a)
    (second : ∃ new, zs = ys ++ new ∧ ∀ a ∈ new, P a) :
    ∃ new, zs = xs ++ new ∧ ∀ a ∈ new, P a := by
  obtain ⟨new, added, here⟩ := first
  obtain ⟨new', added', there⟩ := second
  refine ⟨new ++ new', by rw [added', added, List.append_assoc], fun a mem => ?_⟩
  exact (List.mem_append.1 mem).elim (here a) (there a)

end Continued

variable {setup : Setup}

/-! ## One notice -/

namespace Recovery.Subsystem

/-- Change the ledger of a subsystem that has one. -/
def onLedger (x : Subsystem) (f : Ledger → Ledger) : Subsystem :=
  match x.backing with
  | .ledger ledger => { x with backing := .ledger (f ledger) }
  | .script _ => x

/-- Use up what an answer uses up: an entry of a script, or a failure laid on. -/
def answer (x : Subsystem) (outcome : Outcome) : Subsystem :=
  match x.backing, outcome with
  | .script rest, _ => { x with backing := .script rest.tail }
  | .ledger ledger, .failed _ =>
      { x with backing := .ledger { ledger with failuresLeft := ledger.failuresLeft - 1 } }
  | .ledger _, _ => x

theorem backing_onLedger {x : Subsystem} {ledger : Ledger} (backing : x.backing = .ledger ledger)
    (f : Ledger → Ledger) : (x.onLedger f).backing = .ledger (f ledger) := by
  unfold onLedger
  rw [backing]

theorem backing_answer {x : Subsystem} {ledger : Ledger} (backing : x.backing = .ledger ledger)
    (outcome : Outcome) :
    ∃ left, (x.answer outcome).backing = .ledger { ledger with failuresLeft := left } := by
  unfold answer
  rw [backing]
  cases outcome with
  | failed error => exact ⟨_, rfl⟩
  | done => exact ⟨ledger.failuresLeft, backing⟩
  | panicked reason => exact ⟨ledger.failuresLeft, backing⟩

end Recovery.Subsystem

namespace Notice

/-- What a notice tells of the live set. -/
def onMembers : Notice setup → NodeSet → NodeSet
  | .entered node, members => members.insert node
  | .left node _, members => members.erase node
  | _, members => members

/-- The event that was broadcast according to a notice. -/
def event? : Notice setup → Option Membership.Event
  | .entered node => some (.nodeAdded node)
  | .left node true => some (.nodeRemoved node)
  | .toldAgain node => some (.nodeRemoved node)
  | .channelDisturbed reason => some (.channelError reason)
  | _ => none

/-- What a notice tells of the channels. -/
def onChannels (notice : Notice setup) (channels : List Membership.Channel) :
    List Membership.Channel :=
  match notice with
  | .subscribed _ => channels ++ [{}]
  | .released id => channels.modify id.number .close
  | notice =>
      match notice.event? with
      | some event => channels.map fun c => c.send event
      | none => channels

/-- What a notice tells of the failures laid on the store. -/
def onFailures (notice : Notice setup) (store : Membership.Store) : List Membership.Operation :=
  match notice with
  | .failureLaid operation => (store.failNext operation).failures
  | _ => store.failures

/-- What a notice tells of the store. -/
def onStore (notice : Notice setup) (store : Membership.Store) : Membership.Store :=
  { members := notice.onMembers store.members
    channels := notice.onChannels store.channels
    failures := notice.onFailures store }

/-- The subsystem that a notice is about. -/
def subsystem? : Notice setup → Option setup.SubsystemId
  | .assigned s _ _ | .asked s _ | .answered s _ _ | .swept s _ _ | .sweepFailuresLaid s _
  | .sweepsDelayed s _ | .barrierChanged s _ => some s
  | _ => none

/-- How the subsystem that a notice is about changes. -/
def change (notice : Notice setup) (x : Subsystem) : Subsystem :=
  match notice with
  | .assigned _ work owner => x.onLedger fun ledger => ledger.assign work owner
  | .asked _ target => x.record target
  | .answered _ _ outcome => x.answer outcome
  | .swept _ target _ => x.onLedger fun ledger => ledger.claim target
  | .sweepFailuresLaid _ count => x.onLedger fun ledger => { ledger with failuresLeft := count }
  | .sweepsDelayed _ millis => x.onLedger fun ledger => { ledger with delay := millis }
  | .barrierChanged _ barrier => { x with barrier := some barrier }
  | _ => x

/-- What a notice tells of a subsystem. -/
def onSubsystem (s : setup.SubsystemId) (notice : Notice setup) (x : Subsystem) : Subsystem :=
  if notice.subsystem? = some s then notice.change x else x

/-- Whether the store has a subscription after a notice, given whether it had it before. -/
def listing (id : Membership.SubscriptionId) (notice : Notice setup) (listed : Bool) : Bool :=
  match notice with
  | .subscribed other => decide (other = id) || listed
  | .released other => !decide (other = id) && listed
  | _ => listed

/-- A notice that tells nothing of the store and the subsystems: it is only for the log. -/
def isRemark : Notice setup → Bool
  | .entered _ | .left _ _ | .subscribed _ | .released _ | .toldAgain _ | .channelDisturbed _
  | .failureLaid _ | .assigned _ _ _ | .asked _ _ | .answered _ _ _ | .swept _ _ _
  | .sweepFailuresLaid _ _ | .sweepsDelayed _ _ | .barrierChanged _ _ => false
  | _ => true

theorem onStore_remark {notice : Notice setup} (remark : notice.isRemark = true)
    (store : Membership.Store) : notice.onStore store = store := by
  cases notice <;> first | rfl | simp [isRemark] at remark

theorem onSubsystem_remark {notice : Notice setup} (remark : notice.isRemark = true)
    (s : setup.SubsystemId) (x : Subsystem) : notice.onSubsystem s x = x := by
  cases notice <;> first | rfl | simp [isRemark] at remark

theorem subsystem?_remark {notice : Notice setup} (remark : notice.isRemark = true) :
    notice.subsystem? = none := by
  cases notice <;> first | rfl | simp [isRemark] at remark

theorem event?_remark {notice : Notice setup} (remark : notice.isRemark = true) :
    notice.event? = none := by
  cases notice <;> first | rfl | simp [isRemark] at remark

end Notice

/-! ## Reading a journal from its beginning -/

/-- The live set after the entries. -/
def live (entries : List (Entry setup)) : NodeSet :=
  entries.foldl (fun members e => e.notice.onMembers members) setup.members

/-- A subsystem after the entries. -/
def told (s : setup.SubsystemId) (entries : List (Entry setup)) : Subsystem :=
  entries.foldl (fun x e => e.notice.onSubsystem s x) (setup.subsystem s).initial.subsystem

/-- Whether the store has a subscription after the entries: it was issued and not released. -/
def listedAfter (id : Membership.SubscriptionId) (listed : Bool) (entries : List (Entry setup)) :
    Bool :=
  entries.foldl (fun listed e => e.notice.listing id listed) listed

/-- The events broadcast in the entries while the store had a subscription. -/
def heard (id : Membership.SubscriptionId) : Bool → List (Entry setup) → List Membership.Event
  | _, [] => []
  | listed, e :: rest =>
      (if listed then e.notice.event?.toList else []) ++ heard id (e.notice.listing id listed) rest

/-- **The events broadcast while the store had a subscription**, in order. -/
def during (id : Membership.SubscriptionId) (entries : List (Entry setup)) :
    List Membership.Event :=
  heard id false entries

/-- The subscriptions that were issued to a listener, or to no listener. -/
def issued (party : Option setup.ListenerId) (entries : List (Entry setup)) :
    List Membership.SubscriptionId :=
  entries.filterMap fun e =>
    match e.notice with
    | .subscribed id => if e.scope.listener? = party then some id else none
    | _ => none

/-- A sweep that was asked for: by whose code, of which subsystem, and for what. -/
structure Ask (setup : Setup) where
  scope : Scope setup
  subsystem : setup.SubsystemId
  target : Target
deriving DecidableEq

/-- The sweep that an entry says was asked for. -/
def Entry.ask? (e : Entry setup) : Option (Ask setup) :=
  match e.notice with
  | .asked s target => some ⟨e.scope, s, target⟩
  | _ => none

/-- Every sweep that was asked for in the entries, in order. -/
def asks (entries : List (Entry setup)) : List (Ask setup) := entries.filterMap Entry.ask?

@[simp] theorem live_append (first second : List (Entry setup)) :
    live (first ++ second) =
      second.foldl (fun members e => e.notice.onMembers members) (live first) :=
  List.foldl_append

@[simp] theorem told_append (s : setup.SubsystemId) (first second : List (Entry setup)) :
    told s (first ++ second) = second.foldl (fun x e => e.notice.onSubsystem s x) (told s first) :=
  List.foldl_append

@[simp] theorem listedAfter_append (id : Membership.SubscriptionId) (listed : Bool)
    (first second : List (Entry setup)) :
    listedAfter id listed (first ++ second) = listedAfter id (listedAfter id listed first) second :=
  List.foldl_append

theorem heard_append (id : Membership.SubscriptionId) (listed : Bool)
    (first second : List (Entry setup)) :
    heard id listed (first ++ second) =
      heard id listed first ++ heard id (listedAfter id listed first) second := by
  induction first generalizing listed with
  | nil => rfl
  | cons e rest ih =>
      simp only [List.cons_append, heard, ih, List.append_assoc]
      rfl

theorem during_append (id : Membership.SubscriptionId) (first second : List (Entry setup)) :
    during id (first ++ second) =
      during id first ++ heard id (listedAfter id false first) second :=
  heard_append id false first second

theorem during_concat (id : Membership.SubscriptionId) (entries : List (Entry setup))
    (e : Entry setup) :
    during id (entries ++ [e]) =
      during id entries ++ if listedAfter id false entries then e.notice.event?.toList else [] := by
  rw [during_append]; simp [heard]

theorem listedAfter_concat (id : Membership.SubscriptionId) (entries : List (Entry setup))
    (e : Entry setup) :
    listedAfter id false (entries ++ [e]) =
      e.notice.listing id (listedAfter id false entries) := by
  rw [listedAfter_append]; rfl

theorem live_of_remarks {entries : List (Entry setup)}
    (remarks : ∀ e ∈ entries, e.notice.isRemark = true) : live entries = setup.members := by
  unfold live
  generalize setup.members = members
  induction entries with
  | nil => rfl
  | cons e rest ih =>
      have first : e.notice.onMembers members = members := congrArg Membership.Store.members
        (Notice.onStore_remark (remarks e List.mem_cons_self) { members })
      rw [List.foldl_cons, first]
      exact ih fun e mem => remarks e (List.mem_cons_of_mem _ mem)

theorem told_of_remarks {s : setup.SubsystemId} {entries : List (Entry setup)}
    (remarks : ∀ e ∈ entries, e.notice.isRemark = true) :
    told s entries = (setup.subsystem s).initial.subsystem := by
  unfold told
  generalize (setup.subsystem s).initial.subsystem = x
  induction entries with
  | nil => rfl
  | cons e rest ih =>
      rw [List.foldl_cons, Notice.onSubsystem_remark (remarks e List.mem_cons_self)]
      exact ih fun e mem => remarks e (List.mem_cons_of_mem _ mem)

@[simp] theorem asks_append (first second : List (Entry setup)) :
    asks (first ++ second) = asks first ++ asks second := List.filterMap_append

theorem mem_asks {ask : Ask setup} {entries : List (Entry setup)} :
    ask ∈ asks entries ↔
      ∃ e ∈ entries, e.scope = ask.scope ∧ e.notice = .asked ask.subsystem ask.target := by
  unfold asks
  rw [List.mem_filterMap]
  constructor
  · rintro ⟨e, mem, found⟩
    refine ⟨e, mem, ?_⟩
    unfold Entry.ask? at found
    split at found
    · obtain rfl := Option.some.inj found
      exact ⟨rfl, ‹_›⟩
    · simp at found
  · rintro ⟨e, mem, scope, notice⟩
    exact ⟨e, mem, by simp [Entry.ask?, notice, scope]⟩

/-! ## Subscriptions -/

@[simp] theorem issued_append (party : Option setup.ListenerId)
    (first second : List (Entry setup)) :
    issued party (first ++ second) = issued party first ++ issued party second :=
  List.filterMap_append

/-- What is issued stays issued. -/
theorem mem_issued_append {party : Option setup.ListenerId} {id : Membership.SubscriptionId}
    {first : List (Entry setup)} (second : List (Entry setup)) (own : id ∈ issued party first) :
    id ∈ issued party (first ++ second) :=
  issued_append party first second ▸ List.mem_append_left _ own

theorem mem_issued {party : Option setup.ListenerId} {id : Membership.SubscriptionId}
    {entries : List (Entry setup)} :
    id ∈ issued party entries ↔
      ∃ e ∈ entries, e.scope.listener? = party ∧ e.notice = .subscribed id := by
  unfold issued
  rw [List.mem_filterMap]
  constructor
  · rintro ⟨e, mem, found⟩
    refine ⟨e, mem, ?_⟩
    split at found
    · split at found
      · obtain rfl := Option.some.inj found
        exact ⟨‹_›, ‹_›⟩
      · simp at found
    · simp at found
  · rintro ⟨e, mem, scope, notice⟩
    exact ⟨e, mem, by simp [notice, scope]⟩

theorem issued_eq_nil {party : Option setup.ListenerId} {entries : List (Entry setup)}
    (none : ∀ e ∈ entries, ∀ id, e.scope.listener? = party → e.notice ≠ .subscribed id) :
    issued party entries = [] := by
  rw [List.eq_nil_iff_forall_not_mem]
  intro id mem
  obtain ⟨e, mem, scope, notice⟩ := mem_issued.1 mem
  exact none e mem id scope notice

/-- A subscription that was not issued is not in the store. -/
theorem listedAfter_eq_false {id : Membership.SubscriptionId} {entries : List (Entry setup)}
    (never : ∀ e ∈ entries, e.notice ≠ .subscribed id) : listedAfter id false entries = false := by
  induction entries with
  | nil => rfl
  | cons e rest ih =>
      have first : e.notice.listing id false = false := by
        have := never e List.mem_cons_self
        unfold Notice.listing
        split <;> simp_all
      have later := ih fun e mem => never e (List.mem_cons_of_mem _ mem)
      simpa only [listedAfter, List.foldl_cons, first] using later

/-- Nothing is heard on a subscription before it is issued. -/
theorem during_eq_nil {id : Membership.SubscriptionId} {entries : List (Entry setup)}
    (never : ∀ e ∈ entries, e.notice ≠ .subscribed id) : during id entries = [] := by
  unfold during
  induction entries with
  | nil => rfl
  | cons e rest ih =>
      have first : listedAfter id false [e] = false :=
        listedAfter_eq_false fun e' mem => never e' (by simp_all)
      have later := ih fun e mem => never e (List.mem_cons_of_mem _ mem)
      rw [heard, show e.notice.listing id false = false from first, later]
      rfl

/-- A subscription that is not released stays in the store. -/
theorem listedAfter_of_unreleased {id : Membership.SubscriptionId} {entries : List (Entry setup)}
    (kept : ∀ e ∈ entries, e.notice ≠ .released id) : listedAfter id true entries = true := by
  induction entries with
  | nil => rfl
  | cons e rest ih =>
      have first : e.notice.listing id true = true := by
        have := kept e List.mem_cons_self
        unfold Notice.listing
        split <;> simp_all
      have later := ih fun e mem => kept e (List.mem_cons_of_mem _ mem)
      simpa only [listedAfter, List.foldl_cons, first] using later

/-- A subscription that was issued and not released is in the store. -/
theorem listedAfter_eq_true {id : Membership.SubscriptionId} {entries : List (Entry setup)}
    (issued : ∃ e ∈ entries, e.notice = .subscribed id)
    (kept : ∀ e ∈ entries, e.notice ≠ .released id) : listedAfter id false entries = true := by
  obtain ⟨e, mem, notice⟩ := issued
  obtain ⟨before, after, rfl⟩ := List.append_of_mem mem
  rw [listedAfter_append]
  have later : listedAfter id true after = true :=
    listedAfter_of_unreleased fun e mem => kept e (by simp [mem])
  simpa [listedAfter, notice, Notice.listing] using later

/-- Nothing is heard where nothing is broadcast. -/
theorem heard_eq_nil {id : Membership.SubscriptionId} {listed : Bool}
    {entries : List (Entry setup)} (silent : ∀ e ∈ entries, e.notice.event? = none) :
    heard id listed entries = [] := by
  induction entries generalizing listed with
  | nil => rfl
  | cons e rest ih =>
      rw [heard, silent e List.mem_cons_self, ih fun e mem => silent e (List.mem_cons_of_mem _ mem)]
      simp

theorem during_mono {id : Membership.SubscriptionId} {first second : List (Entry setup)}
    (early : first <+: second) : during id first <+: during id second := by
  obtain ⟨rest, rfl⟩ := early
  rw [during_append]
  exact List.prefix_append _ _

end Takeover
