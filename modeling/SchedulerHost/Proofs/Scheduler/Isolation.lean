import SchedulerHost.Proofs.Scheduler.Attaining
import SchedulerHost.Proofs.Scheduler.Watching

/-!
# The isolation of informers

An informer is not influenced by anything but the moments at which the run is called and at which
the shutdown comes.

* **Isolation** (`informer_isolated`): two executions in which these are the same are the same for
  an informer.
* `shutdown_ties`: the shutdown may come before or after what the informer is to do at that very
  moment.
* **The clock** (`Undisturbed.watched`): whatever is asked for, the clock makes of it an execution
  that can be watched.
-/

namespace SchedulerHost.Host

open Relation (ReflTransGen)

namespace Scheduler

variable {w₀ w w' : Scheduler} {i : Nat} {d : Driver} {r : Chronicle} {mark : Nat}

/-- A driver that was registered in a construction has its place, and an empty store. -/
theorem placed_of_construct {s s' : Surroundings} {assembly : Assembly} {builder : Builder}
    (built : construct s assembly builder = (s', .ok w₀)) (tracked : w₀.drivers[i]? = some d) :
    Placed i d w₀ ∧ w₀.cache.stores.get d.store = .empty := by
  have fresh := fresh_of_construct built
  obtain ⟨apart, laid⟩ := apart_of_construct built
  have there := List.mem_of_getElem? tracked
  refine ⟨⟨tracked, fresh.binds d there, (laid d there).1, apart, ?_⟩, (laid d there).2⟩
  rw [Launched, fresh.informers, fresh.started]
  rfl

theorem fate_eq_playOf (w : Scheduler) (i : Nat) (d : Driver) :
    w.fate (.informer i) = (w.playOf i d).fate := by
  simp only [fate, playOf]
  cases w.informers[i]? with
  | none => rfl
  | some t => rfl

/-- An informer that is at rest has nothing left to do by itself. -/
theorem Tracked.rests (tracked : Tracked i d mark r w) {time : Nat} (called : r.called = some time)
    (rest : AtRest i w) : (w.sight i d mark r.deeds).Rests r.shutdown where
  early due := by
    have shutdown := tracked.up due.1
    rw [shutdown] at due
    exact absurd due.2 nofun
  stuck := tracked.stuck called rest

theorem ahead_of_shutdown (r : Chronicle) (now : Nat) : Ahead r.shutdown r now := by
  unfold Ahead
  cases r.shutdown with
  | some cue => rfl
  | none => exact nofun

/-- **Isolation.** Two executions, of the same scheduler or of two, that agree on the informer, on
the moment at which the run is called and on the one at which the shutdown comes are the same for
the informer, at the end of every moment: it has done the same, it has been answered the same, the
contents of its feed are the same, and it has come as far. It has begun once,
when the run was called. -/
theorem informer_isolated {s₁ s₁' s₂ s₂' : Surroundings} {assembly₁ assembly₂ : Assembly}
    {builder₁ builder₂ : Builder} {u₁ u₂ : Scheduler}
    (built₁ : construct s₁ assembly₁ builder₁ = (s₁', .ok u₁))
    (built₂ : construct s₂ assembly₂ builder₂ = (s₂', .ok u₂))
    {i₁ i₂ : Nat} {d₁ d₂ : Driver} (tracked₁ : u₁.drivers[i₁]? = some d₁)
    (tracked₂ : u₂.drivers[i₂]? = some d₂) (informer : d₁.informer = d₂.informer)
    {r₁ r₂ : Chronicle} {w₁ w₂ : Scheduler} (watch₁ : Watch i₁ d₁ u₁ r₁ w₁)
    (watch₂ : Watch i₂ d₂ u₂ r₂ w₂) (rest₁ : AtRest i₁ w₁) (rest₂ : AtRest i₂ w₂)
    (now : w₁.surroundings.now = w₂.surroundings.now) (called : r₁.called = r₂.called)
    (shutdown : r₁.shutdown = r₂.shutdown) :
    r₁.deeds = r₂.deeds ∧
      w₁.surroundings.read (Entry.ofFeed? d₁.informer.feed) u₁.surroundings.journal.length =
        w₂.surroundings.read (Entry.ofFeed? d₂.informer.feed) u₂.surroundings.journal.length ∧
      w₁.cache.contents d₁.store = w₂.cache.contents d₂.store ∧
      w₁.fate (.informer i₁) = w₂.fate (.informer i₂) ∧
      (r₁.called = none → r₁.deeds = []) ∧
      ∀ time, r₁.called = some time → Solo.BegunOnce time r₁.deeds := by
  obtain ⟨placed₁, empty₁⟩ := placed_of_construct built₁ tracked₁
  obtain ⟨placed₂, empty₂⟩ := placed_of_construct built₂ tracked₂
  obtain ⟨known₁, leads₁⟩ := watch₁.leads (fresh_of_construct built₁) placed₁ empty₁
  obtain ⟨known₂, leads₂⟩ := watch₂.leads (fresh_of_construct built₂) placed₂ empty₂
  have same : w₁.sight i₁ d₁ u₁.surroundings.journal.length r₁.deeds =
      w₂.sight i₂ d₂ u₂.surroundings.journal.length r₂.deeds := by
    cases first : r₁.called with
    | none =>
      have down : w₁.isCancelled .shutdown = w₂.isCancelled .shutdown := by
        rw [known₁.down, known₂.down, shutdown]
      have first₂ := called.symm.trans first
      rw [(known₁.uncalled first).sight, (known₂.uncalled first₂).sight, informer, now, down]
    | some time =>
      -- Both are one and the same informer by itself, at rest at the same moment.
      have first₂ := called.symm.trans first
      have rests₁ := known₁.rests first rest₁
      rw [shutdown] at rests₁
      have ahead₁ := ahead_of_shutdown r₁ w₁.surroundings.now
      rw [shutdown] at ahead₁
      have steps₁ := leads₁ _ ahead₁ time first
      rw [informer] at steps₁
      exact Solo.eq_of_rests steps₁ (leads₂ _ (ahead_of_shutdown r₂ _) time first₂) rests₁
        (known₂.rests first₂ rest₂) now
  refine ⟨congrArg Solo.deeds same, congrArg Solo.told same, ?_, ?_, ?_, ?_⟩
  · exact congrArg (·.store.toList) same
  · rw [fate_eq_playOf w₁ i₁ d₁, fate_eq_playOf w₂ i₂ d₂]
    exact congrArg (·.play.fate) same
  · exact fun never => congrArg Solo.deeds (known₁.uncalled never).sight
  · intro time first
    rcases Solo.begunOnce (leads₁ _ (ahead_of_shutdown r₁ _) time first) with
      ⟨pending, -⟩ | ⟨-, once⟩
    · -- An informer that has been launched and has not begun can begin.
      have stuck := (known₁.rests first rest₁).stuck
      rw [Performance.next?_of_pending pending] at stuck
      contradiction
    · exact once

/-! ### A sleeper -/

/-- Its informer sleeps for five milliseconds and reports its feed then;
the factory reports at the shutdown. -/
def sleeperAssembly : Assembly :=
  { smallAssembly with
    informerFactory := some ⟨[], none, true⟩
    podInformer := some ⟨"pods", [.sleep 5, .act .sync]⟩ }

def sleeperDriver : Driver := ⟨⟨"pods", [.sleep 5, .act .sync]⟩, 0⟩

/-- The sleeper with some other informers, as it is constructed. -/
def sleeper (others : List Informer) : Scheduler :=
  match (construct (.start ⟨"0", .epoch⟩) { sleeperAssembly with informers := others }
    smallBuilder).2 with
  | .ok w => w
  | .error _ => small

/-- The same when its informer has fallen asleep. -/
def asleep (w : Scheduler) : Scheduler :=
  (w.nudge (.task (.informer 0))).nudge (.task (.informer 0))

/-- The same when its informer has woken up and reported. -/
def reported (w : Scheduler) : Scheduler :=
  ((w.nudge (.task (.informer 0))).nudge (.task (.informer 0))).nudge (.task (.informer 0))

def sleeperDeeds : List Deed :=
  [⟨0, .begin⟩, ⟨0, .pass⟩, ⟨5, .pass⟩, ⟨5, .act .sync⟩, ⟨5, .finish⟩]

/-- A step of the informer, if it can take one, is watched. -/
theorem Watch.nudge {w : Scheduler} (watch : Watch i d w₀ r w) (move : Move FeedAction)
    {play : Performance FeedAction}
    (next : (w.playOf i d).next? w.surroundings.now (w.isCancelled .shutdown) = some (move, play))
    (able : (w.poll? (.task (.informer i))).isSome = true) :
    Watch i d w₀ { r with deeds := r.deeds ++ [⟨w.surroundings.now, move⟩] }
      (w.nudge (.task (.informer i))) :=
  .acted watch next (poll?_eq_nudge able)

/-- The run is called with a token that is cancelled, and gives up at once. -/
def givenUp : Scheduler :=
  (((sleeper []).perform (.cancel (.context 0))).1.beginRun (.context 0)).nudge .run

/-- The sleeper does what it does alone when the run has given up. -/
theorem watch_givenUp :
    Watch 0 sleeperDriver (sleeper []) ⟨some 0, none, sleeperDeeds⟩
      (reported (Machine.setNow 5 (asleep givenUp))) := by
  have constructed : Watch 0 sleeperDriver (sleeper []) ⟨none, none, []⟩ (sleeper []) :=
    .constructed none rfl nofun
  have cancelled := constructed.beside (.asked (.cancel (.context 0)) rfl nofun nofun)
  have launched : Watch 0 sleeperDriver (sleeper []) ⟨some 0, none, []⟩ givenUp :=
    (cancelled.called (.context 0) rfl).beside (.polled .run nofun (poll?_eq_nudge rfl))
  have sleeps := (launched.nudge .begin rfl rfl).nudge .pass rfl rfl
  have wakes := sleeps.elapsed ⟨rfl, nofun⟩ 5 (by decide) (by decide)
  exact ((wakes.nudge .pass rfl rfl).nudge (.act .sync) rfl rfl).nudge .finish rfl rfl

/-- The run waits for the factory, and another informer panics. -/
def unsettled : Scheduler :=
  (((sleeper [⟨"nodes", [.panic "boom"]⟩]).beginRun (.context 0)).nudge .run |>.nudge
    (.task (.informer 1))).nudge (.task (.informer 1))

/-- It does the same when another informer panics. -/
theorem watch_unsettled :
    Watch 0 sleeperDriver (sleeper [⟨"nodes", [.panic "boom"]⟩]) ⟨some 0, none, sleeperDeeds⟩
      (reported (Machine.setNow 5 (asleep unsettled))) := by
  have constructed : Watch 0 sleeperDriver (sleeper [⟨"nodes", [.panic "boom"]⟩])
      ⟨none, none, []⟩ (sleeper [⟨"nodes", [.panic "boom"]⟩]) := .constructed none rfl nofun
  have launched := (constructed.called (.context 0) rfl).beside
    (.polled .run nofun (poll?_eq_nudge rfl))
  have begins := launched.beside (.polled (.task (.informer 1)) nofun (poll?_eq_nudge rfl))
  have panics : Watch 0 sleeperDriver _ ⟨some 0, none, []⟩ unsettled :=
    begins.beside (.polled (.task (.informer 1)) nofun (poll?_eq_nudge rfl))
  have sleeps := (panics.nudge .begin rfl rfl).nudge .pass rfl rfl
  have wakes := sleeps.elapsed ⟨rfl, nofun⟩ 5 (by decide) (by decide)
  exact ((wakes.nudge .pass rfl rfl).nudge (.act .sync) rfl rfl).nudge .finish rfl rfl

/-- Whether the run has given up or waits on while another informer has panicked, the sleeper has
reported after five milliseconds. -/
theorem informer_isolated_sleeper :
    (reported (Machine.setNow 5 (asleep givenUp))).run =
      .returned 0 (.error .cacheSyncTimeout) ∧
    (reported (Machine.setNow 5 (asleep unsettled))).fate (.informer 1) = .panicked "boom" ∧
    (reported (Machine.setNow 5 (asleep givenUp))).fate (.informer 0) =
      (reported (Machine.setNow 5 (asleep unsettled))).fate (.informer 0) ∧
    Solo.BegunOnce 0 sleeperDeeds := by
  have built₁ : construct (.start ⟨"0", .epoch⟩) sleeperAssembly smallBuilder =
      ((sleeper []).surroundings, .ok (sleeper [])) := rfl
  have built₂ : construct (.start ⟨"0", .epoch⟩)
      { sleeperAssembly with informers := [⟨"nodes", [.panic "boom"]⟩] } smallBuilder =
      ((sleeper [⟨"nodes", [.panic "boom"]⟩]).surroundings,
        .ok (sleeper [⟨"nodes", [.panic "boom"]⟩])) := rfl
  have same := informer_isolated built₁ built₂ rfl rfl rfl watch_givenUp watch_unsettled
    ⟨rfl, nofun⟩ ⟨rfl, nofun⟩ rfl rfl rfl
  exact ⟨rfl, rfl, same.2.2.2.1, same.2.2.2.2.2 0 rfl⟩

/-- The shutdown comes at the very moment at which the sleeper is to wake up. -/
def cutOff : Scheduler :=
  let w := asleep (((sleeper []).beginRun (.context 0)).nudge .run)
  ((Machine.setNow 5 w : Scheduler).perform (.cancel .shutdown)).1.nudge (.task (.informer 0))

/-- It stops when the shutdown comes at the moment at which it is to wake up. -/
theorem watch_cutOff :
    Watch 0 sleeperDriver (sleeper [])
      ⟨some 0, some ⟨5, 0⟩, [⟨0, .begin⟩, ⟨0, .pass⟩, ⟨5, .finish⟩]⟩ cutOff := by
  have constructed : Watch 0 sleeperDriver (sleeper []) ⟨none, none, []⟩ (sleeper []) :=
    .constructed none rfl nofun
  have launched := (constructed.called (.context 0) rfl).beside
    (.polled .run nofun (poll?_eq_nudge rfl))
  have sleeps := (launched.nudge .begin rfl rfl).nudge .pass rfl rfl
  have wakes := sleeps.elapsed ⟨rfl, nofun⟩ 5 (by decide) (by decide)
  exact (wakes.shutDown rfl).nudge .finish rfl rfl

/-- The shutdown comes at the same moment in two executions of the sleeper, and the run is called at
the same. In the one it comes before the sleeper wakes up at that very moment, which stops without
having reported; in the other, whose run has given up at once, it comes after that. -/
theorem shutdown_ties :
    construct (.start ⟨"0", .epoch⟩) sleeperAssembly smallBuilder =
      ((sleeper []).surroundings, .ok (sleeper [])) ∧
    (sleeper []).drivers[0]? = some sleeperDriver ∧
    ∃ r₁ r₂ w₁ w₂, Watch 0 sleeperDriver (sleeper []) r₁ w₁ ∧
      Watch 0 sleeperDriver (sleeper []) r₂ w₂ ∧ AtRest 0 w₁ ∧ AtRest 0 w₂ ∧
      w₁.surroundings.now = 5 ∧ w₂.surroundings.now = 5 ∧
      r₁.called = some 0 ∧ r₂.called = some 0 ∧
      r₁.shutdown.map (·.time) = some 5 ∧ r₂.shutdown.map (·.time) = some 5 ∧
      w₁.isCancelled (.context 0) = false ∧ w₂.isCancelled (.context 0) = true ∧
      w₁.surroundings.read (Entry.ofFeed? "pods") (sleeper []).surroundings.journal.length =
        [⟨0, .call (.informerRun "pods")⟩, ⟨5, .call (.informerStop "pods")⟩] ∧
      w₂.surroundings.read (Entry.ofFeed? "pods") (sleeper []).surroundings.journal.length =
        [⟨0, .call (.informerRun "pods")⟩, ⟨5, .call (.informerSync "pods" true)⟩,
          ⟨5, .call (.informerStop "pods")⟩] :=
  ⟨rfl, rfl, _, _, cutOff, _, watch_cutOff, watch_givenUp.shutDown rfl, ⟨rfl, nofun⟩, ⟨rfl, nofun⟩,
    rfl, rfl, rfl, rfl, rfl, rfl, rfl, rfl, rfl, rfl⟩

/-! ### The clock -/

/-- What is attained by asking a scheduler for one thing after the other up to the first drain,
while the feed and the store of a driver are left to its informer. -/
inductive Undisturbed (i : Nat) (d : Driver) (w₀ : Scheduler) : Scheduler → Prop
  | constructed : Undisturbed i d w₀ w₀
  | performed {w : Scheduler} (before : Undisturbed i d w₀ w) (c : Command)
    (undrained : ∀ ms, c ≠ .drain ms) (unreported : c ≠ .markSynced d.informer.feed)
    (hold : Bool) : Undisturbed i d w₀ (Machine.resume hold (w.perform c).1)
  | used {w w' : Scheduler} (before : Undisturbed i d w₀ w) (beside : Beside i d w w')
    (asked : Asked w w') (hold : Bool) : Undisturbed i d w₀ (Machine.resume hold w')

theorem Undisturbed.attained (undisturbed : Undisturbed i d w₀ w) : Attained w₀ w := by
  induction undisturbed with
  | constructed => exact .constructed
  | performed _ c _ _ hold ih => exact ih.performed c hold
  | used _ beside asked hold ih => exact ih.used beside.stir asked hold

/-- An execution of a scheduler can be watched. -/
def Watched (i : Nat) (d : Driver) (w₀ w : Scheduler) : Prop := ∃ r, Watch i d w₀ r w

theorem Watched.beside (watched : Watched i d w₀ w) (beside : Beside i d w w') :
    Watched i d w₀ w' := by
  obtain ⟨r, watch⟩ := watched
  exact ⟨r, watch.beside beside⟩

theorem atRest_of_still (still : Machine.Still w) (i : Nat) : AtRest i w where
  stuck := by
    have unable : (w.poll? (.task (.informer i))).isSome = false := still.unable _
    simpa using unable
  entered := taken_of_still still

/-- Whoever sleeps is among those for whom something is due. -/
theorem mem_alarms_of_playOf {due : Nat} (alarm : due ∈ (w.playOf i d).alarms) :
    due ∈ w.alarms := by
  unfold playOf at alarm
  split at alarm
  · cases alarm
  · next t found => exact mem_alarms_iff.2 (.inl ⟨t, List.mem_of_getElem? found, alarm⟩)

theorem Watched.elapse {t : Nat} (still : Machine.Still w) (watched : Watched i d w₀ w)
    (later : w.surroundings.now < t) (early : ∀ due ∈ w.alarms, t ≤ due) :
    Watched i d w₀ (Machine.setNow t w) := by
  obtain ⟨r, watch⟩ := watched
  exact ⟨r, watch.elapsed (atRest_of_still still i) t later
    fun due alarm => early due (mem_alarms_of_playOf alarm)⟩

theorem Watched.shutDown (watched : Watched i d w₀ w) :
    Watched i d w₀ (w.perform (.cancel .shutdown)).1 := by
  obtain ⟨r, watch⟩ := watched
  cases down : w.isCancelled .shutdown with
  | false => exact ⟨_, watch.shutDown down⟩
  | true =>
    have there : Token.shutdown ∈ w.surroundings.cancelled := by
      simpa [isCancelled, Surroundings.isCancelled] using down
    rw [perform, Surroundings.cancel, if_pos there]
    exact ⟨r, watch⟩

section Constructed

variable (fresh : Fresh w₀) (placed : Placed i d w₀)
  (empty : w₀.cache.stores.get d.store = .empty)

include fresh placed empty

/-- Whoever takes a step is the informer that is watched, or someone besides it. -/
theorem keeps_watched : Machine.Keeps (Watched i d w₀) where
  of_poll {a w w'} watched next := by
    have polled : w.poll? a = some w' := next
    by_cases same : a = .task (.informer i)
    · subst same
      obtain ⟨r, watch⟩ := watched
      obtain ⟨move, play, acts⟩ := (watch.leads fresh placed empty).1.placed.acts polled
      exact ⟨_, watch.acted acts.next polled⟩
    · exact watched.beside (.polled a same polled)
  of_line watched _ := watched.beside (.lined _)

/-- Whatever is asked, but for a drain and for a report of the feed, can be watched. -/
theorem Watched.perform (attained : Attained w₀ w) (watched : Watched i d w₀ w) {c : Command}
    (undrained : ∀ ms, c ≠ .drain ms) (unreported : c ≠ .markSynced d.informer.feed) :
    Watched i d w₀ (w.perform c).1 := by
  by_cases shuts : c = .cancel .shutdown
  · rw [shuts]
    exact watched.shutDown
  · cases brief : c.isBrief with
    | true => exact watched.beside (.asked c brief shuts unreported)
    | false =>
      cases c with
      | run ctx =>
        rw [Scheduler.perform]
        split
        · exact watched
        · next free =>
          obtain ⟨r, watch⟩ := watched
          exact ⟨_, watch.called ctx (by simpa using free)⟩
      | advance ms =>
        obtain ⟨reached, roused⟩ := attained.reached fresh
        exact (sound_reached fresh).keeps_advance (keeps_watched fresh placed empty)
          Watched.elapse reached roused watched ms
      | drain ms => exact absurd rfl (undrained ms)
      | _ => contradiction

theorem Watched.resume (watched : Watched i d w₀ w) (hold : Bool) :
    Watched i d w₀ (Machine.resume hold w) := by
  have keeps := keeps_watched fresh placed empty
  cases hold with
  | true => exact keeps.rouse watched
  | false => exact keeps.settle (keeps.rouse watched)

end Constructed

/-- **The clock.** Whatever is asked of a scheduler, up to the first drain, while the feed and the
store of a driver are left to its informer, can be watched, and the informer is at rest at the end
of every moment. -/
theorem Undisturbed.watched {s s' : Surroundings} {assembly : Assembly} {builder : Builder}
    (built : construct s assembly builder = (s', .ok w₀)) (tracked : w₀.drivers[i]? = some d)
    (undisturbed : Undisturbed i d w₀ w) :
    Watched i d w₀ w ∧ Watched i d w₀ (Machine.settle w) ∧ AtRest i (Machine.settle w) := by
  have fresh := fresh_of_construct built
  obtain ⟨placed, empty⟩ := placed_of_construct built tracked
  have watched : Watched i d w₀ w := by
    -- Whatever is asked for is performed, and then everybody goes on; both can be watched.
    induction undisturbed with
    | constructed =>
      cases down : w₀.isCancelled .shutdown with
      | false => exact ⟨_, .constructed none down.symm nofun⟩
      | true =>
        refine ⟨_, .constructed (some w₀.surroundings.now) down.symm ?_⟩
        intro time same
        exact Nat.le_of_eq (Option.mem_some_iff.1 same).symm
    | performed before c undrained unreported hold ih =>
      exact (ih.perform fresh placed empty before.attained undrained unreported).resume fresh
        placed empty hold
    | used before beside asked hold ih => exact (ih.beside beside).resume fresh placed empty hold
  obtain ⟨reached, roused⟩ := undisturbed.attained.reached fresh
  exact ⟨watched, (keeps_watched fresh placed empty).settle watched,
    atRest_of_still ((sound_reached fresh).still_settle reached roused) i⟩

end Scheduler

end SchedulerHost.Host
