import SchedulerHost.Proofs.Scheduler.Draining

/-!
# What can be attained

The schedulers that are attained by asking one thing after the other, from construction on. Whatever
is asked, all settles then or is held up, and it may be asked again in any state.

* `Attained`: what is attained.
* **Readiness** (`Attained.reached`): whatever has been asked, the scheduler is one that a drain can
  be begun on, and whoever can go on has been woken.
-/

namespace SchedulerHost.Host

namespace Scheduler

variable {w₀ w w' : Scheduler} {task : Task}

/-- What is attained by asking a scheduler, or whoever has a hold on its gate or on a store, for one
thing after the other. -/
inductive Attained (w₀ : Scheduler) : Scheduler → Prop
  | constructed : Attained w₀ w₀
  | performed {w : Scheduler} (before : Attained w₀ w) (c : Command) (hold : Bool) :
    Attained w₀ (Machine.resume hold (w.perform c).1)
  | used {w w' : Scheduler} (before : Attained w₀ w) (stir : Stir w w') (asked : Asked w w')
    (hold : Bool) : Attained w₀ (Machine.resume hold w')

/-! ### What is asked for at a moment -/

theorem Asked.outstanding (asked : Asked w w') : w'.outstanding = w.outstanding := by
  cases asked with
  | touches => rfl
  | records => rfl
  | starts => rfl

theorem Fit.asked (fit : Fit w) (asked : Asked w w') : Fit w' := by
  cases asked with
  | @touches s c l gate now members =>
    have kept : ∀ a ∈ w.line.members, a ∈ l.members := by
      rw [members]
      exact fun _ stands => stands
    exact fit.of_same (fun going => kept _ (fit.run going)) kept rfl rfl rfl
  | @records b structured event =>
    refine ⟨fit.run, fun task there => fit.tasks task ?_, ?_, fit.informers, fit.core⟩
    · cases task with
      | recording =>
        rw [HasTask, recording?_of_structured structured]
        exact there
      | informer i => exact there
      | core => exact there
    · intro b' same
      cases same
      exact (fit.backend b structured).push event
  | @starts b structured unrecorded stop =>
    have joined := Joined.toBack w.line .recording
    refine ⟨fun going => joined.stays _ (fit.run going), ?_, ?_, fit.informers, fit.core⟩
    · intro task there
      cases task with
      | recording => exact joined.joins _ List.mem_cons_self
      | informer i => exact joined.stays _ (fit.tasks (.informer i) there)
      | core => exact joined.stays _ (fit.tasks .core there)
    · intro b' same
      cases same
      exact ⟨(fit.backend b structured).senders, (fit.backend b structured).capacity⟩

theorem Reached.asked (h : Reached w₀ w) (stir : Stir w w') (asked : Asked w w') :
    Reached w₀ w' where
  fit := h.fit.asked asked
  life := h.life.tail (.stirred stir)
  intact := h.intact.of_spares asked.spares
    (fun _ there => (asked.untouched there).hasTask_iff.2 there) asked.outstanding

/-! ### What takes longer -/

theorem Reached.beginRun (h : Reached w₀ w) (free : w.isRunning = false) (ctx : Token) :
    Reached w₀ (w.beginRun ctx) where
  fit := h.fit.of_same (fun _ => List.mem_append_right _ List.mem_cons_self)
    (fun _ stands => Line.mem_members_toBack stands) rfl rfl rfl
  life := h.life.tail (.begun ctx free)
  intact := h.intact.of_same rfl rfl rfl rfl

/-- The same with no task outstanding: a drain takes over all of them. -/
def handedOver (w : Scheduler) : Scheduler := { w with outstanding := [] }

theorem untouched_handedOver (w : Scheduler) (task : Task) : Untouched w w.handedOver task :=
  .of_same rfl rfl rfl task

theorem alike_handedOver (free : w.isRunning = false) : Alike w.handedOver w := ⟨free, rfl⟩

/-- A drain begins with a scheduler of which whoever can go on has been woken. -/
theorem Reached.handedOver (h : Reached w₀ w) (roused : Machine.Roused w)
    (free : w.isRunning = false) : Poised w₀ w.handedOver w.handedOver := by
  have fit : Fit w.handedOver := h.fit.of_same h.fit.run (fun _ stands => stands) rfl rfl rfl
  have reached : Reached w₀ w.handedOver :=
    ⟨fit, h.life.tail (.takenOver free), fun task never => (List.not_mem_nil never).elim⟩
  refine ⟨⟨reached, free, rfl, .refl _, fun _ cut => cut⟩, ?_⟩
  intro a able
  rw [likeness_bare.able_eq a (alike_handedOver free)] at able
  exact roused a able

/-- A drain that ends everybody in time, and one that does not. -/
theorem drain_cases (w : Scheduler) (d : Nat) {v : Scheduler} {remaining : List String}
    (drained : w.handedOver.drainTasks (w.surroundings.now + d) Machine.patience w.outstanding =
      (v, remaining)) :
    (remaining = [] ∧ w.drain d = (v.note .drained, .ok ())) ∨
      (remaining ≠ [] ∧ w.drain d = (v.note (.drainTimedOut remaining),
        .error (.shutdownTimeout (.ofMillis (v.surroundings.now - w.surroundings.now))
          remaining))) := by
  rw [handedOver] at drained
  simp only [drain, drained]
  split
  · next nobody => exact .inl ⟨nobody, rfl⟩
  · next somebody => exact .inr ⟨somebody, rfl⟩

/-- What is noted about the drain in the end. -/
theorem exists_drain (w : Scheduler) (d : Nat) {v : Scheduler} {remaining : List String}
    (drained : w.handedOver.drainTasks (w.surroundings.now + d) Machine.patience w.outstanding =
      (v, remaining)) :
    ∃ n : Notice, (n = .drained ∨ ∃ names, n = .drainTimedOut names) ∧
      (w.drain d).1 = v.note n := by
  rcases w.drain_cases d drained with ⟨-, same⟩ | ⟨-, same⟩
  · exact ⟨_, .inl rfl, by rw [same]⟩
  · exact ⟨_, .inr ⟨_, rfl⟩, by rw [same]⟩

theorem Poised.note (h : Poised w₀ w w) {n : Notice}
    (final : n = .drained ∨ ∃ names, n = .drainTimedOut names) :
    Poised w₀ (w.note n) (w.note n) where
  idle :=
    { reached := ⟨h.idle.reached.fit.of_surroundings _,
        h.idle.reached.life.tail (.concluded n final),
        h.idle.reached.intact.of_same rfl rfl rfl rfl⟩
      free := h.idle.free
      outstanding := h.idle.outstanding
      kept := .refl _
      spares := fun _ cut => cut }
  roused := roused_note h.idle.free h.roused n

/-- A drain leaves a scheduler of which whoever can go on has been woken. -/
theorem Reached.drain (fresh : Fresh w₀) (h : Reached w₀ w) (roused : Machine.Roused w)
    (free : w.isRunning = false) (d : Nat) : Poised w₀ (w.drain d).1 (w.drain d).1 := by
  cases drained : w.handedOver.drainTasks (w.surroundings.now + d) Machine.patience
      w.outstanding with
  | mk v remaining =>
    have poised := (h.handedOver roused free).drainTasks fresh (w.surroundings.now + d)
      Machine.patience w.outstanding
    rw [drained] at poised
    obtain ⟨n, final, same⟩ := w.exists_drain d drained
    rw [same]
    exact poised.note final

/-! ### One thing after the other -/

theorem Reached.perform (fresh : Fresh w₀) (h : Reached w₀ w) (roused : Machine.Roused w)
    (c : Command) : Reached w₀ (w.perform c).1 := by
  cases brief : c.isBrief with
  | true => exact h.asked (.asked c brief) (asked_perform w brief)
  | false =>
    -- Only a run, a drain and the passing of time take longer.
    cases c with
    | run ctx =>
      rw [Scheduler.perform]
      split
      · exact h
      · next free => exact h.beginRun (by simpa using free) ctx
    | advance ms => exact ((sound_reached fresh).advance_facts h roused ms).1
    | drain ms =>
      rw [Scheduler.perform]
      split
      · exact h
      · next free => exact (h.drain fresh roused (by simpa using free) ms).idle.reached
    | _ => contradiction

/-- What goes on afterwards leaves whoever can go on woken. -/
theorem Reached.resume (fresh : Fresh w₀) (h : Reached w₀ w) (hold : Bool) :
    Reached w₀ (Machine.resume hold w) ∧ Machine.Roused (Machine.resume hold w) := by
  have sound := sound_reached fresh
  have held := sound.keeps.rouse h
  have roused := sound.roused_rouse h
  cases hold with
  | true => exact ⟨held, roused⟩
  | false => exact ⟨(sound.settle_facts held roused).1, (sound.still_settle held roused).roused⟩

/-- Nobody proceeds in a scheduler of which nothing has been asked, so it is fit. -/
theorem Fresh.fit (fresh : Fresh w) : Fit w := by
  have nothing : w.recording? = none := by
    cases structured : w.backend with
    | legacy => simp [recording?, structured, Backend.broadcaster?]
    | structured b =>
      rw [recording?_of_structured structured]
      exact (fresh.backend b structured).1
  refine ⟨?_, ?_, fun b structured => (fresh.backend b structured).2, ?_, ?_⟩
  · intro going
    simp [isRunning, fresh.run] at going
  · intro task there
    cases task with
    | recording => simp [HasTask, nothing] at there
    | informer i => simp [HasTask, fresh.informers] at there
    | core => simp [HasTask, fresh.core] at there
  · intro t there
    rw [fresh.informers] at there
    cases there
  · intro t there
    rw [fresh.core] at there
    contradiction

/-- **Readiness.** Whatever has been asked, whoever can go on has been woken, and no task that is
outstanding has been ended from outside. -/
theorem Attained.reached (fresh : Fresh w₀) (attained : Attained w₀ w) :
    Reached w₀ w ∧ Machine.Roused w := by
  induction attained with
  | constructed =>
    have reached : Reached w₀ w₀ := by
      refine ⟨fresh.fit, .refl, ?_⟩
      intro task there
      rw [fresh.outstanding] at there
      cases there
    refine ⟨reached, ?_⟩
    -- Nobody stands in the line yet, so nobody can go on.
    intro a able
    have stands := (sound_reached fresh).able_mem reached able
    rw [show Machine.line w₀ = w₀.line from rfl, fresh.line] at stands
    cases stands
  | performed before c hold ih => exact (ih.1.perform fresh ih.2 c).resume fresh hold
  | used before stir asked hold ih => exact (ih.1.asked stir asked).resume fresh hold

end Scheduler

end SchedulerHost.Host
