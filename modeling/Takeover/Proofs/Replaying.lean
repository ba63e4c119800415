/-
# Takeover.Proofs.Replaying -- events reproduce the live set

The live set and the events that tell of it are two accounts of the same changes.  As
long as nobody leaves in silence, and no departure is told again of a node that is live
(`candid`), every change is told and nothing else is: what a notice tells of the live set
is what its event tells (`Notice.replay_event?`).

So a subscriber that knows who was live when it subscribed, and follows the events that
it was sent, received or not, knows who is live at every moment at which both ends of its
subscription exist (`Reached.replays`).
-/
import Takeover.Proofs.Reached

namespace Takeover

set_option autoImplicit false

variable {setup : Setup}

/-! ## Following events -/

/-- What an event tells of the live set. -/
def Membership.Event.onMembers : Membership.Event → NodeSet → NodeSet
  | .nodeAdded node, members => members.insert node
  | .nodeRemoved node, members => members.erase node
  | .channelError _, members => members

/-- The live set as somebody has it who knew it once and has followed the events since. -/
def replay (members : NodeSet) (events : List Membership.Event) : NodeSet :=
  events.foldl (fun members event => event.onMembers members) members

@[simp] theorem replay_nil (members : NodeSet) : replay members [] = members := rfl

theorem replay_append (members : NodeSet) (first second : List Membership.Event) :
    replay members (first ++ second) = replay (replay members first) second :=
  List.foldl_append

theorem NodeSet.erase_of_not_mem {members : NodeSet} {node : NodeId} (gone : ¬node ∈ members) :
    members.erase node = members := by
  obtain ⟨nodes, ascending⟩ := members
  have all : nodes.filter (fun other => decide (other ≠ node)) = nodes := by
    refine List.filter_eq_self.2 fun other mem => decide_eq_true ?_
    rintro rfl
    exact gone mem
  unfold erase
  congr 1

/-! ## Journals that keep nothing back -/

/-- Whether what a notice says happened misleads no subscriber, given who is live: nobody leaves
in silence, and the departure of nobody who is live is told again. -/
def Notice.isCandid (members : NodeSet) : Notice setup → Bool
  | .left _ told => told
  | .toldAgain node => !decide (node ∈ members)
  | _ => true

/-- Whether nothing in the entries misleads a subscriber, given who is live before them. -/
def candid : NodeSet → List (Entry setup) → Bool
  | _, [] => true
  | members, e :: rest => e.notice.isCandid members && candid (e.notice.onMembers members) rest

theorem candid_append {members : NodeSet} {first second : List (Entry setup)} :
    candid members (first ++ second) = (candid members first &&
      candid (first.foldl (fun members e => e.notice.onMembers members) members) second) := by
  induction first generalizing members with
  | nil => rfl
  | cons e rest ih => simp only [List.cons_append, candid, List.foldl_cons, ih, Bool.and_assoc]

/-- **One change and its event**: following the event of a candid notice is what happened. -/
theorem Notice.replay_event? {members : NodeSet} {notice : Notice setup}
    (honest : notice.isCandid members = true) :
    replay members notice.event?.toList = notice.onMembers members := by
  cases notice with
  | left node told =>
      obtain rfl : told = true := honest
      rfl
  | toldAgain node =>
      have gone : ¬node ∈ members := by simpa [Notice.isCandid] using honest
      exact NodeSet.erase_of_not_mem gone
  | _ => rfl

/-- **Following the events of a subscription** that is in the store all along leads to the live
set after the entries. -/
theorem replay_heard {id : Membership.SubscriptionId} {members : NodeSet}
    {entries : List (Entry setup)} (honest : candid members entries = true)
    (once : ∀ e ∈ entries, e.notice ≠ .subscribed id)
    (listed : listedAfter id true entries = true) :
    replay members (heard id true entries) =
      entries.foldl (fun members e => e.notice.onMembers members) members := by
  induction entries generalizing members with
  | nil => rfl
  | cons e rest ih =>
      obtain ⟨first, later⟩ := Bool.and_eq_true_iff.1 honest
      have once' : ∀ e ∈ rest, e.notice ≠ .subscribed id := fun e mem =>
        once e (List.mem_cons_of_mem _ mem)
      -- a subscription that leaves the store does not come back
      have stays : e.notice.listing id true = true := by
        cases still : e.notice.listing id true with
        | true => rfl
        | false =>
            have gone : listedAfter id true (e :: rest) = listedAfter id false rest := by
              rw [← still]
              rfl
            rw [gone, listedAfter_eq_false once'] at listed
            exact listed
      have listed' : listedAfter id true rest = true := by
        have whole : listedAfter id (e.notice.listing id true) rest = true := listed
        rwa [stays] at whole
      rw [heard, stays, if_pos rfl, replay_append, Notice.replay_event? first, List.foldl_cons]
      exact ih later once' listed'

/-! ## Since the issue -/

/-- A subscription is issued once. -/
theorem Cluster.Recorded.issued_once {c : Cluster setup} (recorded : c.Recorded)
    {id : Membership.SubscriptionId} {before after : List (Entry setup)} {e : Entry setup}
    (journal : c.journal = before ++ e :: after) (issue : e.notice = .subscribed id) :
    (∀ other ∈ before, other.notice ≠ .subscribed id) ∧
      ∀ other ∈ after, other.notice ≠ .subscribed id := by
  have journal' : c.journal = before ++ [e] ++ after := by simp [journal]
  have own : id ∈ issued e.scope.listener? (before ++ [e]) :=
    mem_issued.2 ⟨e, by simp, rfl, issue⟩
  refine ⟨fun other mem early => ?_, recorded.not_again journal' own⟩
  have own' : id ∈ issued other.scope.listener? before := mem_issued.2 ⟨other, mem, rfl, early⟩
  exact recorded.not_again journal own' e List.mem_cons_self issue

section Since

variable {id : Membership.SubscriptionId} {before after : List (Entry setup)} {e : Entry setup}
  (fresh : ∀ other ∈ before, other.notice ≠ .subscribed id) (issue : e.notice = .subscribed id)
include fresh issue

/-- The store has a subscription from its issue on. -/
theorem listedAfter_since :
    listedAfter id false (before ++ e :: after) = listedAfter id true after := by
  rw [listedAfter_append, listedAfter_eq_false fresh]
  have listed : e.notice.listing id false = true := by simp [issue, Notice.listing]
  show listedAfter id (e.notice.listing id false) after = _
  rw [listed]

/-- What is broadcast on a subscription is broadcast after its issue. -/
theorem during_since : during id (before ++ e :: after) = heard id true after := by
  have listed : e.notice.listing id false = true := by simp [issue, Notice.listing]
  rw [during_append, during_eq_nil fresh, listedAfter_eq_false fresh, heard, listed]
  rfl

end Since

namespace Scenario

variable {s : Scenario setup}

/-! ## Subscribers -/

/-- Whoever follows the events of a subscription knows who is live. -/
structure Replays (s : Scenario setup) : Prop where
  /-- At every moment at which the store had the subscription, what it had broadcast on it since
  its issue led from the live set then to the live set at that moment. -/
  allAlong : ∀ id before e past rest, s.cluster.journal = before ++ e :: (past ++ rest) →
    e.notice = .subscribed id → listedAfter id true past = true →
      replay (live before) (heard id true past) = live (before ++ e :: past)
  /-- As long as both ends of the subscription exist, what was received and what waits lead from
  the live set at its issue to the live set that the store has. -/
  sinceIssue : ∀ id channel before e after, s.cluster.journal = before ++ e :: after →
    e.notice = .subscribed id → s.cluster.store.channel? id = some channel →
      channel.listed = true → channel.held = true →
        replay (live before) (channel.seen ++ channel.waiting) = s.cluster.store.members
  /-- In particular they do so from the live set that the store had when a scenario subscribed. -/
  opened : ∀ (first : Scenario setup) name id channel, Reached first →
    (first.runSubscription name .subscribe).2 = .subscribed id →
      Leads (first.runSubscription name .subscribe).1 s →
        s.cluster.store.channel? id = some channel → channel.listed = true → channel.held = true →
          replay first.cluster.store.members (channel.seen ++ channel.waiting) =
            s.cluster.store.members

/-- A subscription that a scenario opens is written down. -/
theorem journal_opened {first : Scenario setup} {name : String} {id : Membership.SubscriptionId}
    (opened : (first.runSubscription name .subscribe).2 = .subscribed id) :
    (first.runSubscription name .subscribe).1.cluster.journal =
      first.cluster.journal ++ [⟨first.cluster.now, .outside, .subscribed id⟩] := by
  have handling := first.handling name .subscribe
  generalize first.runSubscription name .subscribe = after at handling opened ⊢
  cases handling with
  | opened result | renamed result =>
      obtain rfl := Answer.subscribed.inj opened
      exact first.cluster.journal_subscribe result
  | declined other => exact absurd rfl other
  | refused => exact nomatch opened

/-- What was broadcast since the issue of a subscription leads to the live set. -/
theorem Reached.replay_past (reached : Reached s)
    (honest : candid setup.members s.cluster.journal = true)
    {id : Membership.SubscriptionId} {before past rest : List (Entry setup)} {e : Entry setup}
    (journal : s.cluster.journal = before ++ e :: (past ++ rest))
    (issue : e.notice = .subscribed id) (listed : listedAfter id true past = true) :
    replay (live before) (heard id true past) = live (before ++ e :: past) := by
  have once := (reached.sound.cluster.recorded.issued_once journal issue).2
  -- the issue itself leaves the live set alone
  have same : e.notice.onMembers (live before) = live before := by rw [issue]; rfl
  have honestPast : candid (live before) past = true := by
    rw [journal, candid_append] at honest
    have since := (Bool.and_eq_true_iff.1 (Bool.and_eq_true_iff.1 honest).2).2
    change candid (e.notice.onMembers (live before)) (past ++ rest) = true at since
    rw [same, candid_append] at since
    exact (Bool.and_eq_true_iff.1 since).1
  rw [live_append, List.foldl_cons, same]
  exact replay_heard honestPast (fun other mem => once other (List.mem_append_left _ mem)) listed

/-- **Following its events, every subscriber knows who is live**, as long as nobody leaves in
silence and no departure is told again of a node that is live. -/
theorem Reached.replays (reached : Reached s)
    (honest : candid setup.members s.cluster.journal = true) : Replays s := by
  have recorded : s.cluster.Recorded := reached.sound.cluster.recorded
  have sinceIssue (id : Membership.SubscriptionId) (channel : Membership.Channel)
      (before : List (Entry setup)) (e : Entry setup) (after : List (Entry setup))
      (journal : s.cluster.journal = before ++ e :: after) (issue : e.notice = .subscribed id)
      (found : s.cluster.store.channel? id = some channel) (listed : channel.listed = true)
      (held : channel.held = true) :
      replay (live before) (channel.seen ++ channel.waiting) = s.cluster.store.members := by
    have fresh := (recorded.issued_once journal issue).1
    rcases recorded.channels id channel found with ⟨listing, history⟩ | ⟨-, dropped, -⟩
    · rw [journal, listedAfter_since fresh issue, listed] at listing
      have whole : s.cluster.journal = before ++ e :: (after ++ []) := by
        rw [List.append_nil, journal]
      have past := reached.replay_past honest whole issue listing.symm
      rw [journal, during_since fresh issue] at history
      rw [recorded.members, journal, ← past, ← history]
      rfl
    · rw [held] at dropped
      exact nomatch dropped
  constructor
  case allAlong =>
    intro id before e past rest journal issue listed
    exact reached.replay_past honest journal issue listed
  case sinceIssue => exact sinceIssue
  case opened =>
    intro first name id channel reached₀ opened leads found listed held
    have reached₁ : Reached (first.runSubscription name .subscribe).1 := by
      show Reached (first.run 0 (.subscription name .subscribe)).1
      exact reached₀.operated 0 rfl
    obtain ⟨new, journal⟩ := reached₁.journal leads
    rw [journal_opened opened, List.append_assoc, List.singleton_append] at journal
    have members : first.cluster.store.members = live first.cluster.journal :=
      reached₀.sound.cluster.recorded.members
    rw [members]
    exact sinceIssue id channel _ _ new journal rfl found listed held

/-- Somebody subscribes; another node joins, which a second attempt cannot, a listener starts, and
the other node dies; departures of nodes that are not live are told, one of them again; a failure
takes a removal, and the listener stops. -/
def turmoil : List (Step small) :=
  [{ op := .subscription "s" .subscribe }, { op := .store (.join ⟨"b"⟩) },
    { op := .store (.join ⟨"b"⟩) }, { op := .listener keeper .start },
    { op := .store (.redeliver ⟨"c"⟩) }, { op := .subscription "s" .receive },
    { op := .store (.crash ⟨"b"⟩) }, { op := .store (.channelError "late") },
    { op := .store (.redeliver ⟨"b"⟩) }, { op := .store (.register ⟨"d"⟩) },
    { op := .store (.failNext .deregister) }, { op := .store (.deregister ⟨"d"⟩) },
    { op := .listener keeper .stop }]

/-- The subscriber of the turmoil received one event, six more wait, and they lead to the one node
that is left. -/
theorem replays_turmoil :
    candid small.members (after small turmoil).cluster.journal = true ∧
      Replays (after small turmoil) ∧
      (after small turmoil).cluster.store.channel? ⟨0⟩ = some
        { seen := [.nodeAdded ⟨"b"⟩]
          waiting := [.nodeAdded ⟨"a"⟩, .nodeRemoved ⟨"c"⟩, .nodeRemoved ⟨"b"⟩,
            .channelError "late", .nodeRemoved ⟨"b"⟩, .nodeAdded ⟨"d"⟩, .nodeRemoved ⟨"a"⟩] } ∧
      (after small turmoil).cluster.store.members = .ofList [⟨"d"⟩] := by
  have honest : candid small.members (after small turmoil).cluster.journal = true := by cbv
  exact ⟨honest, (reached_after turmoil).replays honest, by cbv, by cbv⟩

end Scenario

end Takeover
