import ServiceLifecycle.Proofs.Scene

/-!
# What a claim does to the last detail

A scene leaves out what no lifecycle depends on. Here nothing is left out: apart from a few
services, from the tasks and from what is said, a claim leaves a provider exactly as it is, and
so does the submission of a task.

* **confinement** — all else is as it was (`Provider.Confined`), and so is whatever depends on it;
* **claims** — what the beginning of a transition comes to (`Provider.departs_depart`).
-/

namespace ServiceLifecycle

namespace Provider

variable {p q r : Provider} {n m : Incarnation} {ns ms : List Incarnation} {job : Job}
  {gates : List TaskId} {source target : ServiceState}

/-! ## Confinement -/

/-- The provider with something else said. -/
def withLog (p : Provider) (log : List Remark) : Provider :=
  { p with registry := { p.registry with log } }

/-- All of a provider but its services, its tasks and what was said. -/
def hull (p : Provider) : Provider :=
  { p with
    registry := { p.registry with services := #[], log := [] }
    tasks := { p.tasks with tasks := #[], pending := 0 } }

@[simp] theorem hull_modify (p : Provider) (n : Incarnation) (f : Service → Service) :
    (p.modify n f).hull = p.hull := rfl

@[simp] theorem hull_submit (p : Provider) (job : Job) (gates : List TaskId) :
    (p.submit job gates).2.hull = p.hull := rfl

/-- A name shows the state of the service that is registered under it. -/
theorem stateOf?_eq {id : ServiceId} (hn : p.registry.find? id = some n) :
    p.registry.stateOf? id = some (p.service n).state := by
  unfold Registry.stateOf? Registry.lookup?
  rw [hn]
  rfl

/-- To say several things is to say them. -/
theorem sayAll_eq (remarks : List Remark) (r : Registry) :
    r.sayAll remarks = { r with log := (r.sayAll remarks).log } :=
  List.foldlRecOn (motive := fun q : Registry => q = { r with log := q.log }) remarks Registry.say
    rfl fun q h remark _ => by rw [h]; rfl

/-- Nothing tells one provider from another but some services, the tasks and what was said. -/
structure Confined (ns : List Incarnation) (p q : Provider) : Prop where
  hull : q.hull = p.hull
  size : q.registry.services.size = p.registry.services.size
  others : ∀ m, m ∉ ns → q.service m = p.service m

namespace Confined

theorem refl (p : Provider) : Confined [] p p := ⟨rfl, rfl, fun _ _ => rfl⟩

theorem trans (h : Confined ns p q) (h' : Confined ms q r) : Confined (ns ++ ms) p r := by
  refine ⟨h'.hull.trans h.hull, h'.size.trans h.size, fun m hm => ?_⟩
  obtain ⟨hns, hms⟩ := not_or.mp (List.mem_append.not.mp hm)
  exact (h'.others m hms).trans (h.others m hns)

/-- What is said is said. -/
theorem withLog (h : Confined ns p q) (log : List Remark) : Confined ns p (q.withLog log) :=
  ⟨h.hull, h.size, h.others⟩

theorem find? (h : Confined ns p q) : q.registry.find? = p.registry.find? :=
  (congrArg (fun H : Provider => H.registry.find?) h.hull :)

theorem referrers (h : Confined ns p q) : q.registry.referrers = p.registry.referrers :=
  (congrArg (fun H : Provider => H.registry.referrers) h.hull :)

theorem roster (h : Confined ns p q) : q.registry.roster = p.registry.roster :=
  (congrArg (fun H : Provider => H.registry.roster) h.hull :)

theorem components (h : Confined ns p q) : q.registry.components = p.registry.components :=
  (congrArg (fun H : Provider => H.registry.components) h.hull :)

theorem isAlive (h : Confined ns p q) : q.tasks.isAlive = p.tasks.isAlive :=
  (congrArg (fun H : Provider => H.tasks.isAlive) h.hull :)

/-- A service that is registered under a name and not affected is in the state it was in. -/
theorem stateOf? (h : Confined ns p q) {id : ServiceId}
    (hid : ∀ n, p.registry.find? id = some n → n ∉ ns) :
    q.registry.stateOf? id = p.registry.stateOf? id := by
  cases hn : p.registry.find? id with
  | none =>
    unfold Registry.stateOf? Registry.lookup?
    rw [h.find?, hn]
    rfl
  | some n => rw [stateOf?_eq (h.find? ▸ hn), stateOf?_eq hn, h.others n (hid n hn)]

end Confined

/-! ## Claims -/

/-- A task as it is taken in. -/
def newcomer (p : Provider) (job : Job) (gates : List TaskId) : Task Job HookRun :=
  p.scene.newcomer (job.taskName p.registry) gates job

/-- A task is named after its service. -/
theorem taskName_congr {r r' : Registry} (job : Job)
    (hid : (r'.service job.service).id = (r.service job.service).id) :
    job.taskName r' = job.taskName r := by
  have hname : r'.nameOf job.service = r.nameOf job.service := congrArg ServiceId.text hid
  cases job with
  | enable n => exact congrArg (fun name => s!"enable {name}") hname
  | disable n => exact congrArg (fun name => s!"disable {name}") hname
  | confirm n => exact congrArg (fun name => s!"confirm enabled {name}") hname

/-- A task is taken in in the same way as long as its service keeps its name. -/
theorem Confined.newcomer (h : Confined ns p q) (job : Job) (gates : List TaskId)
    (hid : (q.service job.service).id = (p.service job.service).id) :
    q.newcomer job gates = p.newcomer job gates := by
  unfold Provider.newcomer Scene.newcomer
  rw [taskName_congr job hid]
  show Task.mk _ _ _ _ (if q.tasks.isAlive = true then _ else _) = _
  rw [h.isAlive]
  rfl

/-- A task is taken in, and nothing else happens but to some services. -/
structure TakesIn (p : Provider) (job : Job) (gates : List TaskId) (ns : List Incarnation)
    (q : Provider) : Prop extends Confined ns p q where
  tasks : q.tasks.tasks = p.tasks.tasks.push (p.newcomer job gates)
  pending : q.tasks.pending = p.tasks.pending + 1

/-- A claim succeeds: the transition of a service begins, with the task that is taken in. -/
structure Departs (p : Provider) (n : Incarnation) (target : ServiceState) (job : Job)
    (gates : List TaskId) (q : Provider) : Prop extends TakesIn p job gates [n] q where
  self : q.service n = (p.service n).depart target p.tasks.tasks.size

theorem toList_ofList_option (gate : Option TaskId) :
    (OrderedSet.ofList gate.toList).toList = gate.toList := by
  cases gate <;> rfl

theorem takesIn_submit (p : Provider) (job : Job) (gates : List TaskId) :
    (p.submit job gates).1 = p.tasks.tasks.size ∧
      p.TakesIn job (OrderedSet.ofList gates).toList [] (p.submit job gates).2 :=
  ⟨rfl, ⟨rfl, rfl, fun _ _ => rfl⟩, rfl, rfl⟩

theorem TakesIn.withLog (h : p.TakesIn job gates ns q) (log : List Remark) :
    p.TakesIn job gates ns (q.withLog log) := ⟨h.toConfined.withLog log, h.tasks, h.pending⟩

theorem Departs.withLog (h : p.Departs n target job gates q) (log : List Remark) :
    p.Departs n target job gates (q.withLog log) := ⟨h.toTakesIn.withLog log, h.self⟩

/-- The transition of a service begins, and nothing else happens. -/
theorem departs_depart (hn : n < p.registry.services.size) (target : ServiceState)
    (hjob : job.service = n) (gates : List TaskId) :
    p.Departs n target job (OrderedSet.ofList gates).toList (p.depart n target job gates) := by
  let q := p.modify n fun s => { s.publish target with fault := none }
  have hq : n < q.registry.services.size := by
    simpa [q, Provider.modify, Registry.modify] using hn
  have hfirst : ∀ m, q.service m =
      if m = n then { (p.service n).publish target with fault := none } else p.service m :=
    Registry.service_modify hn _
  have hlast : ∀ m, (p.depart n target job gates).service m =
      if m = n then { q.service n with transition := some p.tasks.tasks.size }
        else q.service m := Registry.service_modify (r := (q.submit job gates).2.registry) hq _
  have hid : (q.service job.service).id = (p.service job.service).id := by
    rw [hjob, hfirst, if_pos rfl]
    rfl
  refine ⟨⟨⟨rfl, ?_, fun m hm => ?_⟩, ?_, rfl⟩, ?_⟩
  · simp [depart, Provider.modify, Registry.modify, Provider.submit, Provider.say, Registry.say]
  · have hne : m ≠ n := fun heq => hm (List.mem_singleton.mpr heq)
    exact (hlast m).trans ((if_neg hne).trans ((hfirst m).trans (if_neg hne)))
  · show p.tasks.tasks.push (q.newcomer job (OrderedSet.ofList gates).toList) = _
    unfold Provider.newcomer
    rw [taskName_congr job hid]
    rfl
  · refine (hlast n).trans ((if_pos rfl).trans ?_)
    rw [hfirst, if_pos rfl]
    rfl

end Provider

end ServiceLifecycle
