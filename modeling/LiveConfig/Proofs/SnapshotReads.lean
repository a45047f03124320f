import LiveConfig.Client
import LiveConfig.Proofs.Alike
import LiveConfig.Proofs.Session

/-!
# Two reads of one resolution

A resolution reads the published snapshot twice: once for the layers of context that
come from it, and once for the configurations.  Each read is of a whole snapshot, but
something may be published in between, and the answer is then one of the new
configurations for the old context (`Resolution.found_run`).

Such an answer is that of one snapshot, whatever is published and asked for, exactly if
no configuration tells the context before from the one after
(`answers_one_snapshot_iff`).  So it is while the server keeps its default context
(`answersOne_of_default_kept`), and not in general (`handover_answers_no_snapshot`).
-/

namespace LiveConfig

/-- What a resolution is asked for. -/
structure Query where
  key : String
  ambient : ContextSet
  explicit : ContextSet
  env : Environment

/-- The context and the match of one snapshot. -/
def Snapshot.answer (snapshot : Snapshot) (query : Query) : Option Match :=
  snapshot.match? query.env (snapshot.contextFor query.ambient query.explicit) query.key

/-- What happens next: something is loaded or published, or the resolution reads. -/
inductive Move
  | act (action : Action)
  | read

/-- A resolver and a resolution that reads from it: the context of its first read, and
the match of its second one. -/
structure Reading where
  resolver : Resolver
  context : Option ContextSet := none
  found : Option (Option Match) := none

namespace Reading

def step (query : Query) (reading : Reading) : Move → Reading
  | .act action => { reading with resolver := reading.resolver.act action }
  | .read =>
    match reading.context, reading.found with
    | none, _ =>
      { reading with
        context := some (reading.resolver.contextFor query.ambient query.explicit) }
    | some context, none =>
      { reading with found := some (reading.resolver.match? query.env context query.key) }
    | some _, some _ => reading

def run (query : Query) (reading : Reading) (moves : List Move) : Reading :=
  moves.foldl (step query) reading

end Reading

/-- What is done to the resolver before, between and after the two reads. -/
structure Schedule where
  before : List Action
  between : List Action
  after : List Action

namespace Schedule

def moves (schedule : Schedule) : List Move :=
  schedule.before.map .act ++ .read ::
    (schedule.between.map .act ++ .read :: schedule.after.map .act)

def actions (schedule : Schedule) : List Action :=
  schedule.before ++ schedule.between ++ schedule.after

end Schedule

namespace Move

def isRead : Move → Bool
  | act _ => false
  | read => true

theorem eq_map_act {moves : List Move} (h : moves.countP isRead = 0) :
    ∃ actions : List Action, moves = actions.map act := by
  induction moves with
  | nil => exact ⟨[], rfl⟩
  | cons move rest ih =>
      cases move with
      | read => simp [isRead] at h
      | act action =>
          obtain ⟨actions, hactions⟩ := ih (by simpa [isRead] using h)
          exact ⟨action :: actions, by rw [hactions]; rfl⟩

theorem eq_before_read {moves : List Move} {n : Nat} (h : moves.countP isRead = n + 1) :
    ∃ (actions : List Action) (rest : List Move),
      moves = actions.map act ++ read :: rest ∧ rest.countP isRead = n := by
  induction moves with
  | nil => simp at h
  | cons move rest ih =>
      cases move with
      | read =>
          rw [List.countP_cons_of_pos rfl] at h
          exact ⟨[], rest, rfl, Nat.succ.inj h⟩
      | act action =>
          obtain ⟨actions, rest', hsplit, hcount⟩ := ih (by simpa [isRead] using h)
          exact ⟨action :: actions, rest', by rw [hsplit]; rfl, hcount⟩

/-- Whatever is interleaved with two reads is a schedule. -/
theorem exists_schedule {moves : List Move} (h : moves.countP isRead = 2) :
    ∃ schedule : Schedule, moves = schedule.moves := by
  obtain ⟨before, rest, rfl, hrest⟩ := eq_before_read h
  obtain ⟨between, rest', rfl, hrest'⟩ := eq_before_read hrest
  obtain ⟨after, rfl⟩ := eq_map_act hrest'
  exact ⟨⟨before, between, after⟩, rfl⟩

end Move

namespace Reading

theorem run_act (query : Query) (reading : Reading) (actions : List Action) :
    reading.run query (actions.map .act) =
      { reading with resolver := reading.resolver.run actions } := by
  induction actions generalizing reading with
  | nil => rfl
  | cons action rest ih =>
      have hstep : reading.run query ((action :: rest).map .act) =
          (reading.step query (.act action)).run query (rest.map .act) := rfl
      rw [hstep, ih]
      rfl

/-- The configurations of the second read are evaluated in the context of the first. -/
theorem found_run (query : Query) (resolver : Resolver) (schedule : Schedule) :
    (run query ⟨resolver, none, none⟩ schedule.moves).found =
      some ((resolver.run (schedule.before ++ schedule.between)).snapshot.match? query.env
        ((resolver.run schedule.before).snapshot.contextFor query.ambient query.explicit)
        query.key) := by
  have hmoves : run query ⟨resolver, none, none⟩ schedule.moves =
      run query (step query (run query (step query (run query ⟨resolver, none, none⟩
        (schedule.before.map .act)) .read) (schedule.between.map .act)) .read)
        (schedule.after.map .act) := by
    simp [run, Schedule.moves, List.foldl_append]
  have hactions : (resolver.run schedule.before).run schedule.between =
      resolver.run (schedule.before ++ schedule.between) := by
    simp [Resolver.run, List.foldl_append]
  rw [hmoves]
  simp only [run_act, step, hactions]
  rfl

end Reading

/-- A client that is not disturbed answers as its snapshot does. -/
theorem Client.result_match? {client : Client α} (hready : client.gate = some (.ok ()))
    (key : String) (explicit : ContextSet) :
    (client.match? key explicit).result = .ok
      (client.resolver.snapshot.answer ⟨key, client.ambient, explicit, client.environment⟩) := by
  unfold match? read awaitReady
  simp only [hready]
  rfl

namespace Resolver

/-- The snapshots that are published at the start and in the course of a session. -/
def snapshots (resolver : Resolver) : List Action → List Snapshot
  | [] => resolver.published.toList
  | action :: rest => resolver.published.toList ++ (resolver.act action).snapshots rest

theorem mem_snapshots {resolver : Resolver} {earlier : List Action}
    (h : (resolver.run earlier).isLoaded) (later : List Action) :
    (resolver.run earlier).snapshot ∈ resolver.snapshots (earlier ++ later) := by
  induction earlier generalizing resolver with
  | nil =>
      obtain ⟨snapshot, hsnapshot⟩ := Option.isSome_iff_exists.mp h
      have hpublished : resolver.published = some snapshot := hsnapshot
      cases later with
      | nil => simp [snapshots, run, Resolver.snapshot, hpublished]
      | cons action rest => simp [snapshots, run, Resolver.snapshot, hpublished]
  | cons action rest ih => exact List.mem_append_right _ (ih h)

theorem isLoaded_run {resolver : Resolver} (h : resolver.isLoaded) (actions : List Action) :
    (resolver.run actions).isLoaded :=
  run_induction (p := fun r => r.isLoaded) (fun _ _ _ hloaded => hloaded) (fun _ _ => rfl) h actions

/-- The contexts that the client was set up with, in the layers and in the snapshot. -/
def HasGlobals (globals : ContextSet) (resolver : Resolver) : Prop :=
  resolver.loader.globals = globals ∧ ∀ snapshot ∈ resolver.published, snapshot.globals = globals

theorem hasGlobals_run {resolver : Resolver} {globals : ContextSet}
    (h : HasGlobals globals resolver) (actions : List Action) :
    HasGlobals globals (resolver.run actions) := by
  apply run_induction _ _ h
  · exact fun _ _ _ hglobals => hglobals
  · rintro resolver ⟨hloader, _⟩
    refine ⟨hloader, ?_⟩
    rintro snapshot ⟨⟩
    exact hloader

theorem contextFor_run_start {baseline overrides : KeyMap Element} {globals : ContextSet}
    {actions : List Action} (hloaded : ((start baseline overrides globals).run actions).isLoaded)
    (ambient explicit : ContextSet) :
    ((start baseline overrides globals).run actions).snapshot.contextFor ambient explicit =
      ContextSet.layered
        (some ((start baseline overrides globals).run actions).snapshot.serverDefault)
        globals ambient explicit := by
  obtain ⟨snapshot, hsnapshot⟩ := Option.isSome_iff_exists.mp hloaded
  have hstart : HasGlobals globals (start baseline overrides globals) := ⟨rfl, by simp [start]⟩
  have hglobals : snapshot.globals = globals := (hasGlobals_run hstart actions).2 snapshot hsnapshot
  have hcurrent : ((start baseline overrides globals).run actions).snapshot = snapshot := by
    simp [Resolver.snapshot, hsnapshot]
  rw [hcurrent, Snapshot.contextFor, hglobals]

/-- Whether a resolution that is interleaved with a schedule is answered as by one of the
snapshots that are published in its course. -/
def AnswersOne (resolver : Resolver) (query : Query) (schedule : Schedule) : Prop :=
  ∃ snapshot ∈ resolver.snapshots schedule.actions,
    (Reading.run query ⟨resolver, none, none⟩ schedule.moves).found =
      some (snapshot.answer query)

/-- If the contexts before and after are alike, the answer is that of the second read. -/
theorem answersOne_of_alike {resolver : Resolver} {query : Query} {schedule : Schedule}
    (hloaded : (resolver.run (schedule.before ++ schedule.between)).isLoaded)
    (h : ((resolver.run schedule.before).snapshot.contextFor query.ambient query.explicit).Alike
      ((resolver.run (schedule.before ++ schedule.between)).snapshot.contextFor
        query.ambient query.explicit)) :
    resolver.AnswersOne query schedule := by
  refine ⟨_, mem_snapshots hloaded schedule.after, ?_⟩
  rw [Reading.found_run, Snapshot.match?_congr h]
  rfl

section Start

variable {baseline overrides : KeyMap Element} {globals : ContextSet} {query : Query}
  {schedule : Schedule}

theorem answersOne_of_defaults_alike
    (hloaded : ((start baseline overrides globals).run schedule.before).isLoaded)
    (h : (ContextSet.layered
        (some ((start baseline overrides globals).run schedule.before).snapshot.serverDefault)
        globals query.ambient query.explicit).Alike
      (ContextSet.layered
        (some ((start baseline overrides globals).run
          (schedule.before ++ schedule.between)).snapshot.serverDefault)
        globals query.ambient query.explicit)) :
    (start baseline overrides globals).AnswersOne query schedule := by
  have hloaded' : ((start baseline overrides globals).run
      (schedule.before ++ schedule.between)).isLoaded := by
    rw [run, List.foldl_append]
    exact isLoaded_run hloaded schedule.between
  apply answersOne_of_alike hloaded'
  rw [contextFor_run_start hloaded, contextFor_run_start hloaded']
  exact h

/-- While the server keeps its default context, two reads are as good as one. -/
theorem answersOne_of_default_kept
    (hloaded : ((start baseline overrides globals).run schedule.before).isLoaded)
    (h : ((start baseline overrides globals).run
        (schedule.before ++ schedule.between)).snapshot.serverDefault =
      ((start baseline overrides globals).run schedule.before).snapshot.serverDefault) :
    (start baseline overrides globals).AnswersOne query schedule := by
  apply answersOne_of_defaults_alike hloaded
  rw [h]
  exact ContextSet.Alike.refl _

end Start

/-- A default context is published, and then another one together with a configuration. -/
def handover (old new : ContextSet) (config : Config) : Schedule where
  before := [.load ⟨none, [], some old⟩ ⟨.streaming, none⟩, .update]
  between := [.load ⟨none, [.ok config], some new⟩ ⟨.streaming, none⟩, .update]
  after := []

theorem snapshots_handover (globals old new : ContextSet) (config : Config) :
    ∀ snapshot ∈ (start .empty .empty globals).snapshots (handover old new config).actions,
      snapshot.configs.get? config.key = none ∨
        snapshot = ((start .empty .empty globals).run
          ((handover old new config).before ++ (handover old new config).between)).snapshot := by
  intro snapshot hmem
  have hsnapshots : (start .empty .empty globals).snapshots (handover old new config).actions =
      [((start .empty .empty globals).run (handover old new config).before).snapshot,
        ((start .empty .empty globals).run (handover old new config).before).snapshot,
        ((start .empty .empty globals).run
          ((handover old new config).before ++ (handover old new config).between)).snapshot] := rfl
  rw [hsnapshots] at hmem
  simp only [List.mem_cons, List.not_mem_nil, or_false] at hmem
  rcases hmem with rfl | rfl | rfl
  · left; rfl
  · left; rfl
  · right; rfl

theorem get?_handover (globals old new : ContextSet) {config : Config}
    (hrows : config.isTombstone = false) :
    ((start .empty .empty globals).run ((handover old new config).before ++
      (handover old new config).between)).snapshot.configs.get? config.key =
        some ⟨config, ⟨.streaming, none⟩⟩ := by
  have hmerged : ((start .empty .empty globals).run ((handover old new config).before ++
      (handover old new config).between)).snapshot.configs =
      (KeyMap.empty.overlay ((({} : Delivered).accept ⟨.streaming, none⟩ config).configs)).overlay
        .empty := rfl
  rw [hmerged, KeyMap.get?_overlay, KeyMap.get?_overlay]
  simp [Delivered.accept, Delivered.isStale, hrows, KeyMap.get?_insert, KeyMap.get?_empty]

/-- Contexts that are not alike are mixed up by some handover. -/
theorem exists_handover {globals ambient explicit old new : ContextSet}
    (h : ¬ (ContextSet.layered (some old) globals ambient explicit).Alike
      (ContextSet.layered (some new) globals ambient explicit)) (env : Environment) :
    ∃ config : Config, ¬ (start .empty .empty globals).AnswersOne
      ⟨config.key, ambient, explicit, env⟩ (handover old new config) := by
  obtain ⟨config, hrows, hprobe⟩ := ContextSet.exists_probe h
  obtain ⟨m, m', hm, hm', hne⟩ := hprobe _ env _ (get?_handover globals old new hrows) rfl
  refine ⟨config, ?_⟩
  rintro ⟨snapshot, hmem, hanswer⟩
  have hfound : snapshot.answer ⟨config.key, ambient, explicit, env⟩ = some m := by
    rw [Reading.found_run, Option.some.injEq] at hanswer
    exact hanswer.symm.trans hm
  rcases snapshots_handover globals old new config snapshot hmem with hnone | rfl
  · simp [Snapshot.answer, Snapshot.match?, hnone] at hfound
  · have hsecond : some m' = some m := hm'.symm.trans hfound
    exact hne (Option.some.inj hsecond).symm

/-- Fix the contexts of the client and of a call, and the default contexts of the server
at the two reads.  Every resolution is answered as by one published snapshot, whatever
else is loaded and published at any time, exactly if the merged contexts are alike. -/
theorem answers_one_snapshot_iff (globals ambient explicit old new : ContextSet) :
    (∀ (baseline overrides : KeyMap Element) (schedule : Schedule) (key : String)
        (env : Environment),
      ((start baseline overrides globals).run schedule.before).isLoaded →
      ((start baseline overrides globals).run schedule.before).snapshot.serverDefault = old →
      ((start baseline overrides globals).run
        (schedule.before ++ schedule.between)).snapshot.serverDefault = new →
      (start baseline overrides globals).AnswersOne ⟨key, ambient, explicit, env⟩ schedule) ↔
    (ContextSet.layered (some old) globals ambient explicit).Alike
      (ContextSet.layered (some new) globals ambient explicit) := by
  constructor
  · intro h
    apply Classical.byContradiction
    intro hdifferent
    obtain ⟨config, hmixed⟩ := exists_handover hdifferent fun _ => none
    exact hmixed (h .empty .empty (handover old new config) config.key _ rfl rfl rfl)
  · intro halike baseline overrides schedule key env hloaded hold hnew
    apply answersOne_of_defaults_alike hloaded
    rw [hold, hnew]
    exact halike

/-- The default context in which the user has a tier. -/
def userTier (tier : String) : ContextSet :=
  ⟨KeyMap.empty.insert "user" ⟨"user", KeyMap.empty.insert "tier" (.string tier)⟩⟩

/-- A flag that is on for a tier, and has no value otherwise. -/
def tierFlag (tier : String) : Config :=
  { id := 1, key := "flag", kind := .featureFlag, valueType := some .bool
    rows := [⟨none, [⟨[⟨some "user.tier", .propIsOneOf, some (.stringList [tier])⟩],
      .value (.bool true)⟩]⟩] }

theorem handover_answers_no_snapshot :
    ¬ (start .empty .empty .empty).AnswersOne ⟨"flag", .empty, .empty, fun _ => none⟩
      (handover (userTier "a") (userTier "b") (tierFlag "a")) := by
  rintro ⟨snapshot, hmem, hanswer⟩
  rw [Reading.found_run, Option.some.injEq] at hanswer
  have hmixed : (snapshot.answer ⟨"flag", .empty, .empty, fun _ => none⟩).isSome = true := by
    rw [← hanswer]
    decide
  rcases snapshots_handover .empty _ _ (tierFlag "a") snapshot hmem with hnone | rfl
  · simp only [Snapshot.answer, Snapshot.match?] at hmixed
    rw [show snapshot.configs.get? "flag" = none from hnone] at hmixed
    simp at hmixed
  · revert hmixed
    decide

end Resolver
end LiveConfig
