import SchedulerHost.Proofs.Scheduler.Construction
import SchedulerHost.Proofs.Scheduler.Life
import SchedulerHost.Proofs.Tasks.Reading

/-!
# Who is asked to build

An assembly goes through its checks one after the other, and each has a reason of its own to refuse
it. The client and the builder are asked in between, and the journal keeps what they were asked.

* `Assembly.Lacks`: what is missing, told by the assembly itself (`mem_missing_iff`,
  `sublist_missing`).
* `FirstRepeat`: the first feed that repeats one before it. Registration stops there
  (`registerAll_cases`).
* `Entry.request?`: what the client and the builder are asked.
* **Construction** (`construct_checked`): what construction comes to, check by check.
-/

namespace SchedulerHost.Host

open Feed (FeedId Gate)
open Surroundings (Tells tells_note tells_call)

/-! ### What is missing -/

def Assembly.Lacks (a : Assembly) : Collaborator → Prop
  | .client => a.client = none
  | .informerFactory => a.informerFactory = none
  | .podInformer => a.podInformer = none
  | .coreBroadcaster => a.hasCoreBroadcaster = false

def Collaborator.all : List Collaborator :=
  [.client, .informerFactory, .podInformer, .coreBroadcaster]

/-- The missing collaborators are those that are not given. -/
theorem Assembly.mem_missing_iff {a : Assembly} {c : Collaborator} :
    c ∈ a.missing ↔ a.Lacks c := by
  cases c <;> simp [missing, Lacks]

/-- They are told in one order, each once. -/
theorem Assembly.sublist_missing (a : Assembly) : a.missing.Sublist Collaborator.all := by
  have part (b : Bool) (c : Collaborator) : (if b then [c] else []).Sublist [c] := by
    cases b <;> simp
  have part' (b : Bool) (c : Collaborator) : (if b then [] else [c]).Sublist [c] := by
    cases b <;> simp
  exact (((part _ .client).append (part _ .informerFactory)).append (part _ .podInformer)).append
    (part' _ .coreBroadcaster)

/-- If nothing is missing, the rules of the component decide. -/
theorem Assembly.complete_of_given {a : Assembly} (given : ∀ c, ¬a.Lacks c) :
    ∃ parts : Parts, parts.component = a.component ∧ a.podInformer = some parts.podInformer ∧
      parts.informers = a.informers ∧ parts.selection = a.selection ∧
      a.complete = (match a.component.validate with
        | .error violation => .error (.invalid violation)
        | .ok () => .ok parts) := by
  obtain ⟨client, hasClient⟩ := Option.ne_none_iff_exists'.1 (given .client)
  obtain ⟨factory, hasFactory⟩ := Option.ne_none_iff_exists'.1 (given .informerFactory)
  obtain ⟨pod, hasPod⟩ := Option.ne_none_iff_exists'.1 (given .podInformer)
  have hasBroadcaster : a.hasCoreBroadcaster = true := eq_true_of_ne_false (given .coreBroadcaster)
  refine ⟨⟨a.component, client, factory, pod, a.informers, a.eventSink, a.selection⟩, rfl, hasPod,
    rfl, rfl, ?_⟩
  cases verdict : a.component.validate with
  | error violation => simp [complete, hasClient, hasFactory, hasPod, hasBroadcaster, verdict]
  | ok u => simp [complete, hasClient, hasFactory, hasPod, hasBroadcaster, verdict]

/-! ### Feeds -/

/-- The first feed of a row that repeats one before it. -/
def FirstRepeat (feeds : List FeedId) (f : FeedId) : Prop :=
  ∃ before after, feeds = before ++ f :: after ∧ before.Nodup ∧ f ∈ before

theorem FirstRepeat.not_nodup {feeds : List FeedId} {f : FeedId} (h : FirstRepeat feeds f) :
    ¬feeds.Nodup := by
  obtain ⟨before, after, rfl, -, repeated⟩ := h
  intro distinct
  exact (List.nodup_append.1 distinct).2.2 f repeated f List.mem_cons_self rfl

/-- Before a wait begins a feed is refused exactly if it is taken. -/
theorem registerFeed_cases (s : Surroundings) {c : Cache} (openGate : c.gate.isSealed = false)
    (feed : FeedId) :
    (feed ∈ c.gate.feeds ∧ registerFeed s c feed = .error (.duplicate feed)) ∨
      (feed ∉ c.gate.feeds ∧ ∃ id c',
        registerFeed s c feed = .ok (id, s.note .outside (.feedRegistered feed), c') ∧
          c'.gate.isSealed = false ∧ ∀ g, g ∈ c'.gate.feeds ↔ feed = g ∨ g ∈ c.gate.feeds) := by
  by_cases taken : feed ∈ c.gate.feeds
  · exact .inl ⟨taken, by simp [registerFeed, Cache.register, Gate.register, openGate, taken]⟩
  · refine .inr ⟨taken, c.stores.size, ⟨{ c.gate with
      feeds := c.gate.feeds.insert feed ⟨.notStarted, c.stores.size⟩ }, c.stores.add .empty⟩, ?_,
      openGate, ?_⟩
    · simp [registerFeed, Cache.register, Gate.register, openGate, taken]
    · intro g
      simp [Std.TreeMap.mem_insert]

/-- Registration goes through a row of informers up to the first whose feed is taken. -/
theorem registerAll_cases (s : Surroundings) {c : Cache} (informers : List Informer)
    (openGate : c.gate.isSealed = false) :
    (∃ before f after, informers.map (·.feed) = before ++ f :: after ∧ before.Nodup ∧
        (∀ g ∈ before, g ∉ c.gate.feeds) ∧ (f ∈ before ∨ f ∈ c.gate.feeds) ∧
        (registerAll s c informers).2 = .error (.duplicate f)) ∨
      ((informers.map (·.feed)).Nodup ∧ (∀ g ∈ informers.map (·.feed), g ∉ c.gate.feeds) ∧
        ∃ registered, (registerAll s c informers).2 = .ok registered) := by
  induction informers generalizing s c with
  | nil => exact .inr ⟨.nil, by simp, ([], c), rfl⟩
  | cons informer rest ih =>
    rcases registerFeed_cases s openGate informer.feed with
      ⟨taken, refused⟩ | ⟨free, id, c', accepted, openGate', feeds⟩
    · refine .inl ⟨[], informer.feed, rest.map (·.feed), rfl, .nil, by simp, .inr taken, ?_⟩
      simp [registerAll, Driver.register, refused]
    · have later : (registerAll s c (informer :: rest)).2 =
          (registerAll (s.note .outside (.feedRegistered informer.feed)) c' rest).2.map
            fun registered => (⟨informer, id⟩ :: registered.1, registered.2) := by
        simp [registerAll, Driver.register, accepted]
      rcases ih (s.note .outside (.feedRegistered informer.feed)) openGate' with
        ⟨before, f, after, split, distinct, others, repeated, refused⟩ |
        ⟨distinct, others, registered, all⟩
      · left
        refine ⟨informer.feed :: before, f, after, by simp [split], ?_, ?_, ?_, ?_⟩
        · refine List.nodup_cons.2 ⟨fun there => ?_, distinct⟩
          exact others _ there ((feeds _).2 (.inl rfl))
        · intro g there
          rcases List.mem_cons.1 there with rfl | behind
          · exact free
          · exact fun known => others g behind ((feeds g).2 (.inr known))
        · rcases repeated with before' | known
          · exact .inl (List.mem_cons_of_mem _ before')
          · rcases (feeds f).1 known with rfl | old
            · exact .inl List.mem_cons_self
            · exact .inr old
        · rw [later, refused]
          rfl
      · right
        refine ⟨?_, ?_, _, by rw [later, all]; rfl⟩
        · rw [List.map_cons]
          refine List.nodup_cons.2 ⟨fun there => ?_, distinct⟩
          exact others _ there ((feeds _).2 (.inl rfl))
        · intro g there
          rw [List.map_cons] at there
          rcases List.mem_cons.1 there with rfl | behind
          · exact free
          · exact fun known => others g behind ((feeds g).2 (.inr known))

/-- With no feed taken at first, registration stops at the first feed that repeats another. -/
theorem registerAll_empty (s : Surroundings) (informers : List Informer) :
    (∃ f, FirstRepeat (informers.map (·.feed)) f ∧
        (registerAll s .empty informers).2 = .error (.duplicate f)) ∨
      ((informers.map (·.feed)).Nodup ∧
        ∃ registered, (registerAll s .empty informers).2 = .ok registered) := by
  have none (g : FeedId) : g ∉ Cache.empty.gate.feeds := by
    simp [Cache.empty, Gate.empty]
  rcases registerAll_cases s (c := .empty) informers rfl with
    ⟨before, f, after, split, distinct, -, repeated, refused⟩ | ⟨distinct, -, registered⟩
  · refine .inl ⟨f, ⟨before, after, split, distinct, ?_⟩, refused⟩
    exact repeated.resolve_right (none f)
  · exact .inr ⟨distinct, registered⟩

/-! ### Requests -/

def Entry.request? (e : Entry) : Option Call :=
  match e.what with
  | .call (.probe groupVersion) => some (.probe groupVersion)
  | .call (.build request) => some (.build request)
  | _ => none

/-- What the client is asked when a backend is chosen: nothing if the choice is forced. -/
def probes (selection : Event.Selection) : List Call :=
  if selection.mode = .probe then [.probe selection.groupVersion] else []

/-- The client and the builder are asked in between, and no token is cancelled. -/
structure Asks (asked : List Call) (s s' : Surroundings) : Prop where
  told : Tells Entry.request? asked s s'
  cancelled : s'.cancelled = s.cancelled

namespace Asks

variable {s s' s'' : Surroundings} {asked more : List Call}

theorem refl (s : Surroundings) : Asks [] s s := ⟨.refl _ s, rfl⟩

theorem trans (first : Asks asked s s') (last : Asks more s' s'') : Asks (asked ++ more) s s'' :=
  ⟨first.told.trans last.told, last.cancelled.trans first.cancelled⟩

/-- What is asked of nobody changes nothing. -/
theorem silent (first : Asks asked s s') (last : Asks [] s' s'') : Asks asked s s'' := by
  simpa using first.trans last

/-- Nobody is asked by a notice. -/
theorem noted (asks : Asks asked s s') (scope : Scope) (n : Notice) :
    Asks asked s (s'.note scope n) :=
  asks.silent ⟨tells_note Entry.request? s' scope n, rfl⟩

end Asks

/-- The client is asked once, and only if the choice is to be probed. -/
theorem asks_isServed (s : Surroundings) (client : Client) (selection : Event.Selection) :
    Asks (probes selection) s (Backend.isServed s client selection).1 := by
  unfold Backend.isServed probes
  cases mode : selection.mode with
  | forceBroadcast => exact .refl s
  | forceCompat => exact .refl s
  | probe =>
    have asked : Asks [.probe selection.groupVersion] s
        { s.call (.probe selection.groupVersion) with now := s.now + client.delay } :=
      ⟨(tells_call _ s (.probe selection.groupVersion)).trans (.of_journal rfl), rfl⟩
    simp only [Backend.probe, if_true]
    cases client.refusal with
    | none => exact asked.noted _ _
    | some reason => exact asked.noted _ _

theorem asks_resolve (s : Surroundings) (client : Client) (selection : Event.Selection)
    (sink : Option Sink) :
    Asks (probes selection) s (Backend.resolve s client selection sink).1 := by
  have served := asks_isServed s client selection
  unfold Backend.resolve
  split
  · next same =>
    rw [same] at served
    exact served.noted _ _
  · next same =>
    rw [same] at served
    exact served.noted _ _
  · next same =>
    rw [same] at served
    exact served.noted _ _

theorem asks_registerAll (s : Surroundings) (c : Cache) (informers : List Informer) :
    Asks [] s (registerAll s c informers).1 := by
  induction informers generalizing s c with
  | nil => exact .refl s
  | cons informer rest ih =>
    cases taken : registerFeed s c informer.feed with
    | error fault =>
      simp only [registerAll, Driver.register, taken]
      exact .refl s
    | ok registered =>
      obtain ⟨id, s', c'⟩ := registered
      obtain ⟨-, -, -, rfl⟩ := registerFeed_eq_ok taken
      simp only [registerAll, Driver.register, taken]
      exact ((Asks.refl s).noted _ _).silent (ih _ _)

/-! ### Construction -/

namespace Scheduler

/-- The builder is asked once, and what it says decides. -/
theorem asks_build (s : Surroundings) (parts : Parts) (builder : Builder) (cache : Cache)
    (backend : Backend) (drivers : List Driver) :
    Asks [.build ⟨parts.podInformer.feed, backend.kind, s.isCancelled .shutdown,
      .ofComponent parts.component⟩] s (build s parts builder cache backend drivers).1 := by
  have asked : Asks _ s (s.call (.build ⟨parts.podInformer.feed, backend.kind,
      s.isCancelled .shutdown, .ofComponent parts.component⟩)) := ⟨tells_call _ s _, rfl⟩
  unfold build
  dsimp only
  split
  · exact asked.noted _ _
  · cases backend with
    | structured b => exact asked.noted _ _
    | legacy =>
      have recorder (s : Surroundings) :
          Asks [] s (s.call (.legacyRecorder ⟨builder.component, ""⟩)) :=
        ⟨tells_call Entry.request? _ _, rfl⟩
      exact (asked.silent (recorder _)).noted _ _

/-- What is constructed once the assembly is complete and sound. -/
theorem construct_of_complete {a : Assembly} {parts : Parts} (h : a.complete = .ok parts)
    (s : Surroundings) (builder : Builder) :
    (∃ f, FirstRepeat (parts.allInformers.map (·.feed)) f ∧
        (construct s a builder).2 = .error (.configuration (.feed (.duplicate f))) ∧
        Asks (probes parts.selection) s (construct s a builder).1) ∨
      ((parts.allInformers.map (·.feed)).Nodup ∧ ∃ s' cache backend drivers,
        Asks (probes parts.selection) s s' ∧
        construct s a builder = build s' parts builder cache backend drivers) := by
  have resolved := asks_resolve s parts.client parts.selection parts.eventSink
  cases chosen : Backend.resolve s parts.client parts.selection parts.eventSink with
  | mk s₁ backend =>
    rw [chosen] at resolved
    have asked := resolved.silent (asks_registerAll s₁ .empty parts.allInformers)
    have outcome := registerAll_empty s₁ parts.allInformers
    cases registered : registerAll s₁ .empty parts.allInformers with
    | mk s₂ result =>
      rw [registered] at asked outcome
      rcases outcome with ⟨f, repeated, rfl⟩ | ⟨distinct, ⟨drivers, cache⟩, rfl⟩
      · have refused : construct s a builder =
            (s₂, .error (.configuration (.feed (.duplicate f)))) := by
          simp only [construct, h, chosen, registered]
        rw [refused]
        exact .inl ⟨f, repeated, rfl, asked⟩
      · refine .inr ⟨distinct, s₂, cache, backend, drivers, asked, ?_⟩
        simp only [construct, h, chosen, registered]

/-- **Construction.** An assembly is refused for what it lacks, told in order, before its component
is looked at, and for the first rule its component breaks before anyone is asked. Then the client
is probed once if the selection says so, and not otherwise. A feed that repeats one before it is
refused. Only then the builder is asked, once, and gets every setting of a component that keeps all
rules, and no plugins; what it says decides. -/
theorem construct_checked (s : Surroundings) (a : Assembly) (builder : Builder) :
    ((∃ c, a.Lacks c) → ∃ lacking : List Collaborator, lacking.Sublist Collaborator.all ∧
      (∀ c, c ∈ lacking ↔ a.Lacks c) ∧
      construct s a builder = (s, .error (.configuration (.missing lacking)))) ∧
    (∀ violation, (∀ c, ¬a.Lacks c) → a.component.validate = .error violation →
      construct s a builder = (s, .error (.configuration (.invalid violation)))) ∧
    ∀ pod, (∀ c, ¬a.Lacks c) → a.component.validate = .ok () → a.podInformer = some pod →
      (¬(pod.feed :: a.informers.map (·.feed)).Nodup →
        ∃ f, FirstRepeat (pod.feed :: a.informers.map (·.feed)) f ∧
          (construct s a builder).2 = .error (.configuration (.feed (.duplicate f))) ∧
          Tells Entry.request? (probes a.selection) s (construct s a builder).1) ∧
      ((pod.feed :: a.informers.map (·.feed)).Nodup →
        ∃ request : BuildRequest, request.podFeed = pod.feed ∧
          request.isShutdown = s.isCancelled .shutdown ∧
          request.options = .ofComponent a.component ∧ request.options.component = a.component ∧
          request.options.component.violations = [] ∧ request.options.registry.names = [] ∧
          Tells Entry.request? (probes a.selection ++ [.build request]) s
            (construct s a builder).1 ∧
          (∀ chain, builder.refusal = some chain →
            (construct s a builder).2 = .error (.construction (.ofChain chain))) ∧
          (builder.refusal = none → ∃ w, (construct s a builder).2 = .ok w ∧ Fresh w ∧
            w.parts.component = a.component ∧
            w.drivers.map (·.informer.feed) = pod.feed :: a.informers.map (·.feed))) := by
  refine ⟨?_, ?_, ?_⟩
  · rintro ⟨c, lacks⟩
    have some : a.missing ≠ [] := List.ne_nil_of_mem (Assembly.mem_missing_iff.2 lacks)
    exact ⟨a.missing, a.sublist_missing, fun c => Assembly.mem_missing_iff,
      construct_of_incomplete s builder (Assembly.complete_of_missing some)⟩
  · intro violation given broken
    obtain ⟨parts, -, -, -, -, complete⟩ := Assembly.complete_of_given given
    rw [broken] at complete
    exact construct_of_incomplete s builder complete
  · intro pod given sound hasPod
    obtain ⟨parts, component, hasPod', informers, selection, complete⟩ :=
      Assembly.complete_of_given given
    obtain rfl : pod = parts.podInformer := Option.some.inj (hasPod.symm.trans hasPod')
    rw [sound] at complete
    have violations := Config.Component.validate_eq_ok_iff.1 sound
    have feeds : parts.podInformer.feed :: a.informers.map (·.feed) =
        parts.allInformers.map (·.feed) := by
      rw [Parts.allInformers, List.map_cons, informers]
    rw [feeds, ← component, ← selection]
    rw [← component] at violations
    rcases construct_of_complete complete s builder with
      ⟨f, repeated, refused, asked⟩ | ⟨distinct, s', cache, backend, drivers, asked, built⟩
    · exact ⟨fun _ => ⟨f, repeated, refused, asked.told⟩,
        fun distinct => absurd distinct repeated.not_nodup⟩
    · refine ⟨fun twice => absurd distinct twice, fun _ => ?_⟩
      have all := asked.trans (asks_build s' parts builder cache backend drivers)
      rw [← built] at all
      refine ⟨_, rfl, ?_, rfl, Options.component_ofComponent _, ?_, rfl, all.told, ?_, ?_⟩
      · simp only [Surroundings.isCancelled, asked.cancelled]
      · rw [Options.component_ofComponent]
        exact violations
      · intro chain refusal
        simp [built, build, refusal]
      · intro accepted
        obtain ⟨s'', w, constructed, same⟩ : ∃ s'' w, construct s a builder = (s'', .ok w) ∧
            w.parts = parts := by
          simp only [built, build, accepted]
          exact ⟨_, _, rfl, rfl⟩
        have fresh := fresh_of_construct constructed
        refine ⟨w, by rw [constructed], fresh, by rw [same], ?_⟩
        rw [← same, ← fresh.allInformers, List.map_map]
        rfl

/-- Nothing is missing from the small scheduler, whatever else is changed about it. -/
theorem smallAssembly_given (component : Config.Component) (informers : List Informer)
    (c : Collaborator) :
    ¬{ smallAssembly with component := component, informers := informers }.Lacks c := by
  cases c <;> simp [Assembly.Lacks, smallAssembly]

/-- The small scheduler without a client, without a profile, with a second informer of the pods, and
with a builder that refuses and one that does not. -/
theorem construct_checked_small :
    let s := Surroundings.start ⟨"0", .epoch⟩
    (∃ lacking : List Collaborator, Collaborator.client ∈ lacking ∧
      construct s { smallAssembly with client := none } smallBuilder =
        (s, .error (.configuration (.missing lacking)))) ∧
    construct s
        { smallAssembly with component := { Config.Component.standard with profiles := [] } }
        smallBuilder = (s, .error (.configuration (.invalid .noProfile))) ∧
    (∃ f, FirstRepeat ["pods", "pods"] f ∧
      (construct s { smallAssembly with informers := [⟨"pods", []⟩] } smallBuilder).2 =
        .error (.configuration (.feed (.duplicate f)))) ∧
    (construct s smallAssembly { smallBuilder with refusal := some ["no core"] }).2 =
        .error (.construction ⟨"no core", []⟩) ∧
    ∃ w, (construct s smallAssembly smallBuilder).2 = .ok w ∧ Fresh w := by
  intro s
  have given := smallAssembly_given .standard []
  have distinct : (["pods"] : List FeedId).Nodup := by decide
  refine ⟨?_, ?_, ?_, ?_, ?_⟩
  · obtain ⟨lacking, -, lacks, refused⟩ :=
      (construct_checked s { smallAssembly with client := none } smallBuilder).1 ⟨.client, rfl⟩
    exact ⟨lacking, (lacks .client).2 rfl, refused⟩
  · exact (construct_checked s _ smallBuilder).2.1 .noProfile (smallAssembly_given _ []) rfl
  · obtain ⟨f, repeated, refused, -⟩ :=
      ((construct_checked s _ smallBuilder).2.2 ⟨"pods", [.act .sync]⟩
      (smallAssembly_given .standard [⟨"pods", []⟩]) rfl rfl).1 (by decide)
    exact ⟨f, repeated, refused⟩
  · obtain ⟨request, -, -, -, -, -, -, -, refused, -⟩ := ((construct_checked s smallAssembly
      { smallBuilder with refusal := some ["no core"] }).2.2 ⟨"pods", [.act .sync]⟩ given rfl rfl).2
        distinct
    exact refused ["no core"] rfl
  · obtain ⟨request, -, -, -, -, -, -, -, -, accepted⟩ := ((construct_checked s smallAssembly
      smallBuilder).2.2 ⟨"pods", [.act .sync]⟩ given rfl rfl).2 distinct
    obtain ⟨w, constructed, fresh, -⟩ := accepted rfl
    exact ⟨w, constructed, fresh⟩

end Scheduler

end SchedulerHost.Host
