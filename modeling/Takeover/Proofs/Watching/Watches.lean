/-
# Takeover.Proofs.Watching.Watches -- who waits and who watches misses nothing

A watch remembers how many transitions there had been when its holder saw the state last
(`Watches`).  The number changes exactly if the state does, so a watch tells that the state
changed exactly if it is another than the one that was seen (`Watches.runWatched`).

An operation is followed by others that use neither its number nor its watch
(`Scenario.LeadsBy`).  Whoever awaits the end of a listener is answered exactly if the
listener has come to its end, whenever the call began, once nothing can go on
(`Scenario.Reached.observed`).
-/
import Takeover.Proofs.Watching.Waiters

namespace Takeover

set_option autoImplicit false

variable {setup : Setup}

namespace Scenario

variable {may : Nat → Op setup → Prop} {s s' : Scenario setup} {l : setup.ListenerId}
  {number other : Nat} {name : String}

/-! ## Scenarios in which only certain operations are made -/

/-- What can happen next in a scenario in which only certain operations are made. -/
inductive NextBy (may : Nat → Op setup → Prop) (s : Scenario setup) : Scenario setup → Prop
  | operated (number : Nat) {op : Op setup} (allowed : may number op)
      (instant : isInstant op = true) : NextBy may s (s.run number op).1
  | roused : NextBy may s { s with session := s.session.rouse }
  | turned : NextBy may s { s with session := s.session.oneTurn }
  | elapsed (time : Nat) (settled : s.cluster.queue = []) :
      NextBy may s { s with session := s.session.stopAt time }

/-- What can come of a scenario sooner or later if only certain operations are made. -/
abbrev LeadsBy (may : Nat → Op setup → Prop) : Scenario setup → Scenario setup → Prop :=
  Relation.ReflTransGen (NextBy may)

theorem NextBy.next (next : NextBy may s s') : Next s s' := by
  cases next with
  | operated number allowed instant => exact .operated number instant
  | roused => exact .roused
  | turned => exact .turned
  | elapsed time settled => exact .elapsed time settled

theorem LeadsBy.leads (leads : LeadsBy may s s') : Leads s s' :=
  Relation.ReflTransGen.mono (fun _ _ next => NextBy.next next) _ _ leads

/-- Tasks run without any operation. -/
theorem leadsBy_settle {session : Session setup} {handles : List (String × Handle)}
    {watches : List (String × Watch setup)} :
    LeadsBy may ⟨session, handles, watches⟩ ⟨session.settle, handles, watches⟩ := by
  fun_induction Session.settle session with
  | case1 session settled => exact .refl
  | case2 session task rest queue ih =>
      have next : NextBy may ⟨session, handles, watches⟩ ⟨session.oneTurn, handles, watches⟩ :=
        .turned
      rw [Session.oneTurn_of_cons queue] at next
      exact ih.head next

/-- The clock moves without any operation. -/
theorem leadsBy_passTo {limit now : Nat} {session : Session setup}
    {handles : List (String × Handle)} {watches : List (String × Watch setup)}
    (settled : session.cluster.queue = []) :
    LeadsBy may ⟨session, handles, watches⟩ ⟨session.passTo limit now, handles, watches⟩ := by
  fun_induction Session.passTo limit now session with
  | case1 now session none => exact .single (.elapsed limit settled)
  | case2 now session d next later ih =>
      have stopped : LeadsBy may ⟨session, handles, watches⟩ ⟨session.stopAt d, handles, watches⟩ :=
        .single (.elapsed d settled)
      exact (stopped.trans leadsBy_settle).trans (ih (Session.queue_settle _))
  | case3 now session d next ended => exact .single (.elapsed limit settled)

theorem leadsBy_run (s : Scenario setup) {op : Op setup} (allowed : may number op) :
    LeadsBy may s (s.run number op).1 := by
  cases op with
  | settle => exact leadsBy_settle
  | advance millis =>
      show LeadsBy may s { s with session := s.session.advance millis }
      unfold Session.advance
      split
      · exact .refl
      · exact leadsBy_settle.trans (leadsBy_passTo (Session.queue_settle _))
  | _ => exact .single (.operated number allowed rfl)

/-- After the operation of a step come the tasks, unless they are held back. -/
theorem leadsBy_step_of_run (s : Scenario setup) (number : Nat) (step : Step setup) :
    LeadsBy may (s.run number step.op).1 (s.step number step).1 := by
  have roused : LeadsBy may (s.run number step.op).1 { (s.run number step.op).1 with
      session := (s.run number step.op).1.session.rouse } := .single .roused
  show LeadsBy may _ (if step.held then _ else settle _)
  split
  · exact roused
  · exact roused.trans leadsBy_settle

/-- A list of steps of which all are allowed. -/
theorem leadsBy_play (s : Scenario setup) (steps : List (Step setup))
    (allowed : ∀ step ∈ steps, ∀ other, number ≤ other → may other step.op) :
    LeadsBy may s (s.play number steps) := by
  induction steps generalizing s number with
  | nil => exact .refl
  | cons step rest ih =>
      have ran := s.leadsBy_run (allowed step List.mem_cons_self number (Nat.le_refl _))
      refine (ran.trans (s.leadsBy_step_of_run number step)).trans (ih _ ?_)
      exact fun step mem other later =>
        allowed step (List.mem_cons_of_mem _ mem) other (Nat.le_of_succ_le later)

/-! ## Calls and watches of others -/

/-- Whether an operation sees the state of a listener for a watch. -/
def looksWith (name : String) : Op setup → Prop
  | .watched other => other = name
  | .listener _ (.watch other) => other = name
  | _ => False

/-- What an operation does to the calls and the watches: at most it puts down a call under its
number, and binds the watch with which it looks. -/
structure Puts (s : Scenario setup) (number : Nat) (op : Op setup) (s' : Scenario setup) : Prop where
  calls : ∃ new, s'.session.calls = s.session.calls ++ new ∧ ∀ call ∈ new, call.1 = number
  verdicts : s'.session.verdicts = s.session.verdicts
  watches : s'.watches = s.watches ∨
    ∃ name watch, looksWith name op ∧ s'.watches = bind s.watches name watch

namespace Puts

variable {op : Op setup}

theorem same (calls : s'.session.calls = s.session.calls)
    (verdicts : s'.session.verdicts = s.session.verdicts) (watches : s'.watches = s.watches) :
    Puts s number op s' where
  calls := ⟨[], calls.trans (List.append_nil _).symm, fun _ mem => absurd mem List.not_mem_nil⟩
  verdicts := verdicts
  watches := .inl watches

theorem begun (s : Scenario setup) (number : Nat) (begun : Cluster setup × Progress setup) :
    Puts s number op (s.begun number begun).1 := by
  obtain ⟨c, progress⟩ := begun
  cases progress with
  | finished verdict => exact same rfl rfl rfl
  | waits call =>
      refine ⟨⟨[(number, call)], rfl, fun entry mem => ?_⟩, rfl, .inl rfl⟩
      rw [List.mem_singleton.1 mem]

theorem applied (s : Scenario setup) (c? : Option (Cluster setup)) :
    Puts s number op (s.applied c?).1 := by
  cases c? with
  | none => exact same rfl rfl rfl
  | some c => exact same rfl rfl rfl

theorem runSubscription (s : Scenario setup) (name : String) (own : SubscriptionOp) :
    Puts s number op (s.runSubscription name own).1 := by
  have handling := s.handling name own
  generalize s.runSubscription name own = after at handling ⊢
  cases handling <;> exact same rfl rfl rfl

theorem runSubsystem (s : Scenario setup) (x : setup.SubsystemId) (own : SubsystemOp) :
    Puts s number op (s.runSubsystem number x own).1 := by
  cases own with
  | sweep | awaitReady => exact begun s number _
  | ownedBy | recovered =>
      unfold Scenario.runSubsystem
      dsimp only
      split <;> exact same rfl rfl rfl
  | calls | kind | hasBarrier => exact same rfl rfl rfl
  | assign | failNextSweeps | setSweepDelay | markReady | failReady | dropHandle =>
      exact applied s _

/-- **What an operation does to the calls and the watches.** -/
theorem run (s : Scenario setup) (number : Nat) {op : Op setup} (instant : isInstant op = true) :
    Puts s number op (s.run number op).1 := by
  cases op with
  | store own => cases own <;> exact same rfl rfl rfl
  | subscription name own => exact runSubscription s name own
  | subsystem x own => exact runSubsystem s x own
  | listener l own =>
      cases own with
      | start | stop | wait => exact begun s number _
      | describe => exact same rfl rfl rfl
      | watch name =>
          exact ⟨⟨[], (List.append_nil _).symm, fun _ mem => absurd mem List.not_mem_nil⟩, rfl,
            .inr ⟨name, _, rfl, rfl⟩⟩
  | watched name =>
      show Puts s number _ (s.runWatched name).1
      unfold runWatched
      split
      · exact same rfl rfl rfl
      · exact ⟨⟨[], (List.append_nil _).symm, fun _ mem => absurd mem List.not_mem_nil⟩, rfl,
          .inr ⟨name, _, rfl, rfl⟩⟩
  | settle => exact nomatch instant
  | advance millis => exact nomatch instant
  | closePool | dump => exact same rfl rfl rfl

end Puts

/-! ## Waiters -/

/-- An operation does not use a number. -/
def sparesNumber (number : Nat) (other : Nat) (_ : Op setup) : Prop := other ≠ number

/-- Other operations leave alone a call that awaits the end of a listener. -/
theorem awaits_next {first : List Verdict} {told : List (Nat × Verdict)} (reached : Reached s)
    (awaits : s.session.Awaits l number first told) (next : NextBy (sparesNumber number) s s') :
    s'.session.Awaits l number first told := by
  have run := reached.lawful.run
  have steps := (reached.lawful.leads (.single next.next)).steps
  cases next with
  | @operated other op allowed instant =>
      obtain ⟨⟨new, calls, own⟩, verdicts, -⟩ := Puts.run s other instant
      refine awaits.aside run steps ?_ ⟨[], verdicts.trans (List.append_nil _).symm, rfl⟩
      have none : under number new = [] :=
        under_eq_nil fun entry mem => (own entry mem).symm ▸ allowed
      rw [calls, under_append, none, List.append_nil]
  | roused => exact awaits.aside run steps rfl ⟨[], (List.append_nil _).symm, rfl⟩
  | turned => exact awaits.oneTurn run
  | elapsed time settled =>
      obtain ⟨more, stopped, -⟩ := s.session.stopAt_eq time
      refine awaits.aside run steps ?_ ⟨[], ?_, rfl⟩
      · show under number (s.session.stopAt time).calls = _
        rw [stopped]
      · show (s.session.stopAt time).verdicts = _
        rw [stopped, List.append_nil]

/-- **A call that awaits the end of a listener, over a whole run.** -/
theorem awaits_leads {first : List Verdict} {told : List (Nat × Verdict)} (reached : Reached s)
    (awaits : s.session.Awaits l number first told) (leads : LeadsBy (sparesNumber number) s s') :
    s'.session.Awaits l number first told := by
  induction leads with
  | refl => exact awaits
  | tail before next ih => exact awaits_next (reached.leads (LeadsBy.leads before)) ih next

/-- What is answered at once, if anything is. -/
def Answer.verdicts : Answer → List Verdict
  | .verdict ended => [ended]
  | _ => []

/-- The scenario once somebody began to wait for the end of a listener. -/
def waited (s : Scenario setup) (number : Nat) (l : setup.ListenerId) : Scenario setup :=
  (s.run number (.listener l .wait)).1

/-- Who waits for the end of a listener is answered at once, or the call waits. -/
theorem awaits_waited (unused : ∀ call ∈ s.session.calls, call.1 ≠ number) :
    (s.waited number l).session.Awaits l number (s.run number (.listener l .wait)).2.verdicts
      s.session.verdicts := by
  have free : under number s.session.calls = [] := under_eq_nil unused
  show (s.begun number (s.cluster.awaitEnd l)).1.session.Awaits l number
    (s.begun number (s.cluster.awaitEnd l)).2.verdicts s.session.verdicts
  unfold Cluster.awaitEnd
  split
  · rename_i terminal
    exact .came (List.append_nil _).symm rfl free terminal
  · refine .waits (List.append_nil _).symm rfl ?_
    show under number (s.session.calls ++ [(number, .awaitEnd l)]) = _
    rw [under_append, free, under_self, List.nil_append]

/-! ## Watches -/

/-- An operation does not look with a watch. -/
def sparesWatch (name : String) (_ : Nat) (op : Op setup) : Prop := ¬looksWith name op

/-- Somebody watches a listener, and saw it last in a certain state: when the watch was bound, or
when it was last looked at. -/
inductive Watches (name : String) (l : setup.ListenerId) :
    ServiceState → Scenario setup → Prop
  | opened {s : Scenario setup} (reached : Reached s) (number : Nat) :
      Watches name l (s.cluster.listener l).state (s.run number (.listener l (.watch name))).1
  | looked {seen : ServiceState} {s : Scenario setup} (watches : Watches name l seen s)
      (number : Nat) : Watches name l (s.cluster.listener l).state (s.run number (.watched name)).1
  | meanwhile {seen : ServiceState} {s s' : Scenario setup} (watches : Watches name l seen s)
      (leads : LeadsBy (sparesWatch name) s s') : Watches name l seen s'

/-- A watch remembers the transitions that there had been at an earlier moment. -/
structure Remembers (s : Scenario setup) (name : String) (watch : Watch setup)
    (earlier : Scenario setup) : Prop where
  bound : s.watches.lookup name = some watch
  seen : watch.seen = (earlier.cluster.listener watch.listener).changes
  reached : Reached earlier
  leads : Leads earlier s

theorem lookup_bind {α : Type} (names : List (String × α)) (name : String) (x : α) :
    (bind names name x).lookup name = some x := List.lookup_cons_self

theorem lookup_bind_other {α : Type} (names : List (String × α)) {name other : String}
    (ne : other ≠ name) (x : α) : (bind names other x).lookup name = names.lookup name := by
  have skip : (name == other) = false := by simp [Ne.symm ne]
  have kept : (names.filter fun entry => decide (entry.1 ≠ other)).lookup name =
      names.lookup name := by
    induction names with
    | nil => rfl
    | cons entry rest ih =>
        by_cases same : entry.1 = other
        · have unlike : (name == entry.1) = false := by simp [same, Ne.symm ne]
          rw [List.filter_cons_of_neg (by simp [same]), List.lookup_cons, unlike]
          exact ih
        · rw [List.filter_cons_of_pos (by simp [same]), List.lookup_cons, List.lookup_cons, ih]
  rw [bind, List.lookup_cons, skip]
  exact kept

/-- Other operations leave a watch alone. -/
theorem watches_next (next : NextBy (sparesWatch name) s s') :
    s'.watches.lookup name = s.watches.lookup name := by
  cases next with
  | @operated number op allowed instant =>
      obtain ⟨-, -, same | ⟨other, watch, looks, bound⟩⟩ := Puts.run s number instant
      · rw [same]
      · have ne : other ≠ name := fun same => allowed (same ▸ looks)
        rw [bound, lookup_bind_other _ ne]
  | _ => rfl

theorem watches_leads (leads : LeadsBy (sparesWatch name) s s') :
    s'.watches.lookup name = s.watches.lookup name := by
  induction leads with
  | refl => rfl
  | tail _ next ih => exact (watches_next next).trans ih

namespace Watches

variable {seen : ServiceState}

/-- Who watches was there when the listener was in the state that was seen last. -/
theorem remembers (watches : Watches name l seen s) : ∃ watch earlier,
    Remembers s name watch earlier ∧ watch.listener = l ∧
      (earlier.cluster.listener l).state = seen := by
  induction watches with
  | @opened s reached number =>
      exact ⟨⟨l, (s.cluster.listener l).changes⟩, s,
        ⟨lookup_bind _ name _, rfl, reached, s.leads_run number _⟩, rfl, rfl⟩
  | @looked seen s watches number ih =>
      obtain ⟨watch, earlier, remembers, rfl, -⟩ := ih
      have reached := remembers.reached.leads remembers.leads
      refine ⟨{ watch with seen := (s.cluster.listener watch.listener).changes }, s,
        ⟨?_, rfl, reached, s.leads_run number _⟩, rfl, rfl⟩
      show (s.runWatched name).1.watches.lookup name = _
      unfold runWatched
      rw [remembers.bound]
      exact lookup_bind _ name _
  | @meanwhile seen s s' watches leads ih =>
      obtain ⟨watch, earlier, remembers, own, state⟩ := ih
      exact ⟨watch, earlier, ⟨(watches_leads leads).trans remembers.bound, remembers.seen,
        remembers.reached, remembers.leads.trans (LeadsBy.leads leads)⟩, own, state⟩

/-- **A watch tells that the state changed exactly if it is another than the one seen last.** -/
theorem runWatched (watches : Watches name l seen s) :
    (s.runWatched name).2 = .watched (decide ((s.cluster.listener l).state ≠ seen))
      (s.cluster.listener l).state := by
  obtain ⟨watch, earlier, remembers, rfl, rfl⟩ := watches.remembers
  have run := remembers.reached.lawful.run
  have steps := (remembers.reached.lawful.leads remembers.leads).steps
  have together := run.changes_eq_iff steps (l := watch.listener)
  unfold Scenario.runWatched
  rw [remembers.bound]
  dsimp only
  congr 1
  rw [Bool.eq_iff_iff, bne_iff_ne, decide_eq_true_iff, remembers.seen, ne_comm]
  exact not_congr together

end Watches

/-! ## Lists of steps -/

/-- What comes of an operation in a list of steps, if no later operation is made that is not
allowed. -/
theorem leadsBy_after (steps more : List (Step setup)) (step : Step setup)
    (allowed : ∀ later ∈ more, ∀ other, steps.length < other → may other later.op) :
    LeadsBy may ((after setup steps).run steps.length step.op).1
      (after setup (steps ++ step :: more)) := by
  have whole : after setup (steps ++ step :: more) =
      ((after setup steps).step steps.length step).1.play (steps.length + 1) more := by
    unfold after
    rw [play_append, Nat.zero_add]
    rfl
  rw [whole]
  exact ((after setup steps).leadsBy_step_of_run _ step).trans (leadsBy_play _ more allowed)

/-- The numbers of later operations are not used yet. -/
theorem unused_after (steps : List (Step setup)) :
    ∀ call ∈ (after setup steps).session.calls, call.1 ≠ steps.length := by
  have numbered : NumberedBelow (after setup steps) (0 + steps.length) :=
    NumberedBelow.play (s := initial setup)
      ⟨(List.nodup_nil : ([] : List Nat).Nodup), fun _ mem => absurd mem List.not_mem_nil⟩ steps
  intro call mem same
  have below := numbered.below call mem
  omega

/-- Somebody who looks with a watch in a list of steps has seen the state of that moment last, as
long as they do not look again. -/
theorem watches_after (steps more : List (Step setup)) (look : Step setup)
    (looks : look.op = .listener l (.watch name) ∨
      look.op = .watched name ∧ ∃ seen, Watches name l seen (after setup steps))
    (others : ∀ step ∈ more, ¬looksWith name step.op) :
    Watches name l ((after setup steps).cluster.listener l).state
      (after setup (steps ++ look :: more)) := by
  have leads : LeadsBy (sparesWatch name) ((after setup steps).run steps.length look.op).1
      (after setup (steps ++ look :: more)) :=
    leadsBy_after steps more look fun step mem _ _ => others step mem
  rcases looks with opens | ⟨again, seen, watches⟩
  · rw [opens] at leads
    exact .meanwhile (.opened (reached_after steps) steps.length) leads
  · rw [again] at leads
    exact .meanwhile (.looked watches steps.length) leads

/-! ## The theorem -/

/-- A call that began to await the end of a listener has ended exactly if the listener has come to
its end, and the state in which it did is its only answer. -/
structure WaitEnded (s later : Scenario setup) (l : setup.ListenerId) (number : Nat) : Prop where
  answers : ∃ more, later.session.verdicts = s.session.verdicts ++ more ∧
    (s.run number (.listener l .wait)).2.verdicts ++ under number more =
      if (later.cluster.listener l).state.isTerminal
      then [.reached (later.cluster.listener l).state] else []
  unfinished : under number later.session.calls =
    if (later.cluster.listener l).state.isTerminal then [] else [.awaitEnd l]

/-- Those who wait for the end of a listener and those who watch it miss nothing. -/
structure Observed (s : Scenario setup) (l : setup.ListenerId) : Prop where
  /-- Somebody begins to wait now: whenever nothing can go on, the call has ended exactly if the
  listener has come to its end. -/
  waited : ∀ number, (∀ call ∈ s.session.calls, call.1 ≠ number) → ∀ later,
    LeadsBy (sparesNumber number) (s.waited number l) later → later.session.AtRest →
      s.WaitEnded later l number
  /-- At no moment has it ended otherwise, or too early. -/
  meanwhile : ∀ number, (∀ call ∈ s.session.calls, call.1 ≠ number) → ∀ later,
    LeadsBy (sparesNumber number) (s.waited number l) later →
      later.session.Awaits l number (s.run number (.listener l .wait)).2.verdicts s.session.verdicts
  /-- In a list of steps this is so after every step that does not hold the tasks back. -/
  played : ∀ steps wait more, s = after setup steps → wait.op = .listener l .wait →
    ((wait :: more).getLast (List.cons_ne_nil wait more)).held = false →
      s.WaitEnded (after setup (steps ++ wait :: more)) l steps.length
  /-- A watch tells that the state changed exactly if it is another than the one seen last. -/
  watched : ∀ name seen, Watches name l seen s → (s.runWatched name).2 =
    .watched (decide ((s.cluster.listener l).state ≠ seen)) (s.cluster.listener l).state

/-- Whoever waits for the end of a listener is answered, once nothing can go on. -/
theorem Reached.waitEnded (reached : Reached s)
    (unused : ∀ call ∈ s.session.calls, call.1 ≠ number)
    (leads : LeadsBy (sparesNumber number) (s.waited number l) s') (rest : s'.session.AtRest) :
    s.WaitEnded s' l number := by
  have reached₁ : Reached (s.waited number l) := .operated number reached rfl
  have awaits := awaits_leads reached₁ (awaits_waited unused) leads
  obtain ⟨more, verdicts, answers, unfinished⟩ := awaits.at_rest rest
  exact ⟨⟨more, verdicts, answers⟩, unfinished⟩

/-- **Waiters and watchers see every end and every change.** -/
theorem Reached.observed (reached : Reached s) (l : setup.ListenerId) : Observed s l where
  waited number unused later leads rest := reached.waitEnded unused leads rest
  meanwhile number unused later leads :=
    awaits_leads (reached.operated number rfl) (awaits_waited unused) leads
  played steps wait more same asks free := by
    subst same
    have leads : LeadsBy (sparesNumber steps.length) ((after setup steps).waited steps.length l)
        (after setup (steps ++ wait :: more)) := by
      rw [waited, ← asks]
      exact leadsBy_after steps more wait fun _ _ _ later => Nat.ne_of_gt later
    refine reached.waitEnded (unused_after steps) leads ?_
    have rest : (after setup (steps ++ (wait :: more).dropLast ++
        [(wait :: more).getLast (List.cons_ne_nil wait more)])).session.AtRest :=
      atRest_after _ free
    rwa [List.append_assoc, List.dropLast_append_getLast] at rest
  watched name seen watches := watches.runWatched

/-- Somebody watches a listener and waits for its end before it starts; it is looked at when it
runs, a second start is refused, and it stops. -/
def vigil : List (Step small) :=
  [{ op := .listener keeper (.watch "w") }, { op := .listener keeper .wait },
    { op := .listener keeper .start }, { op := .watched "w" }, { op := .listener keeper .start },
    { op := .listener keeper .stop }]

/-- The call that waited from the beginning is answered by the stop, and one that begins then at
once.  The watch, which saw the listener run, tells of no change while the second start is refused
and of one after the stop. -/
theorem observed_vigil :
    Observed (after small (vigil.take 1)) keeper ∧
      (after small (vigil.take 5)).session.calls = [(1, .awaitEnd keeper)] ∧
      (after small vigil).session.verdicts = [(5, .ok), (1, .reached .terminated)] ∧
      ((after small vigil).run 6 (.listener keeper .wait)).2 = .verdict (.reached .terminated) ∧
      Watches "w" keeper .running (after small vigil) ∧
      ((after small (vigil.take 5)).runWatched "w").2 = .watched false .running ∧
      ((after small vigil).runWatched "w").2 = .watched true .terminated := by
  have running : ((after small (vigil.take 3)).cluster.listener keeper).state = .running := by cbv
  have bound : Watches "w" keeper _ (after small (vigil.take 3)) :=
    watches_after [] [{ op := .listener keeper .wait }, { op := .listener keeper .start }]
      { op := .listener keeper (.watch "w") } (.inl rfl) (by simp [looksWith])
  have looked : Watches "w" keeper _ (after small vigil) :=
    watches_after (vigil.take 3) [{ op := .listener keeper .start }, { op := .listener keeper .stop }]
      { op := .watched "w" } (.inr ⟨rfl, _, bound⟩) (by simp [looksWith])
  rw [running] at looked
  refine ⟨(reached_after _).observed keeper, by cbv, by cbv, by cbv, looked, by cbv, ?_⟩
  have told := ((reached_after vigil).observed keeper).watched "w" .running looked
  exact told.trans (by cbv)

end Scenario

end Takeover
