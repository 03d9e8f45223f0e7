import ServiceLifecycle.Provider.Perform

/-!
# Checks that others interrupt

The checks of a request do nothing by themselves. But each time the validator is consulted
and each time a component is asked others may get in. So what others keep, whatever it is,
a check keeps: that nothing changes at all, where nobody gets in, or that only this or that
changes.

* **questions** — a single question (`Provider.kept_judge`, `Provider.kept_askRunning`) and
  several, one after the other (`Provider.kept_selectAsking`);
* **checks** — on the way up (`Provider.kept_verifyAll`) and on the way down
  (`Provider.kept_verifyNoActiveReferrers`, `Provider.kept_verifyNoneInUse`).
-/

namespace ServiceLifecycle.Provider

/-! ## Questions -/

/-- Several questions keep what each of them keeps. -/
theorem kept_selectAsking {I : Provider → Prop} {α : Type} {check : α → Provider → Bool × Provider}
    (hcheck : ∀ a p, I p → I (check a p).2) (as : List α) {p : Provider} (h : I p) :
    I (selectAsking check as p).2 := by
  induction as generalizing p with
  | nil => exact h
  | cons a as ih => exact ih (hcheck a p h)

section Between

variable {I : Provider → Prop} {between : Interference} {p : Provider}
  (hbetween : ∀ probe p, I p → I (between probe p))

include hbetween

theorem kept_judge (h : I p) (n : Incarnation) (properties : PropertyStore) :
    I (p.judge between n properties).2 := by
  unfold judge
  dsimp only
  split
  · exact hbetween _ p h
  · exact h

theorem kept_askComponent (h : I p) (c : ComponentNumber) : I (p.askComponent between c).2 := by
  unfold askComponent
  dsimp only
  split
  · exact hbetween _ p h
  · exact h

theorem kept_askRunning (h : I p) (id : ComponentId) : I (p.askRunning between id).2 := by
  unfold askRunning
  split
  · exact h
  · exact kept_askComponent hbetween h _

/-! ## Checks -/

theorem kept_verifyCanEnable (h : I p) (n : Incarnation) (willEnable : List ServiceId) :
    I (p.verifyCanEnable between n willEnable).2 := by
  have hjudge := kept_judge hbetween h n (p.service n).properties
  unfold verifyCanEnable
  dsimp only
  split
  · exact h
  · split <;> exact hjudge

theorem kept_verifyAll (willEnable : List ServiceId) (ns : List Incarnation) (h : I p) :
    I (verifyAll between willEnable ns p).2 := by
  induction ns generalizing p with
  | nil => exact h
  | cons n ns ih =>
    have hcheck := kept_verifyCanEnable hbetween h n willEnable
    unfold verifyAll
    split <;> next heq => rw [heq] at hcheck; first | exact ih hcheck | exact hcheck

theorem kept_isActiveReferrer (id : ServiceId) (excluded : List ServiceId) (referrer : Referrer)
    (p : Provider) (h : I p) : I (isActiveReferrer between id excluded referrer p).2 := by
  cases referrer with
  | service other => exact h
  | component c => exact kept_askRunning hbetween h c

theorem kept_verifyNoActiveReferrers (h : I p) (n : Incarnation) (excluded : List ServiceId) :
    I (p.verifyNoActiveReferrers between n excluded).2 := by
  have hselect := kept_selectAsking (kept_isActiveReferrer hbetween (p.service n).id excluded)
    (p.registry.referrers.of (p.service n).id) h
  unfold verifyNoActiveReferrers
  dsimp only
  split <;> next heq => rw [heq] at hselect; exact hselect

theorem kept_verifyNoRunningComponents (h : I p) (n : Incarnation) :
    I (p.verifyNoRunningComponents between n).2 := by
  have hselect := kept_selectAsking
    (fun (c : ComponentId) p (h : I p) => kept_askRunning hbetween h c)
    (p.registry.referrers.components (p.service n).id) h
  unfold verifyNoRunningComponents
  dsimp only
  split <;> next heq => rw [heq] at hselect; exact hselect

theorem kept_verifyNoneInUse (ns : List Incarnation) (h : I p) :
    I (verifyNoneInUse between ns p).2 := by
  induction ns generalizing p with
  | nil => exact h
  | cons n ns ih =>
    have hcheck := kept_verifyNoRunningComponents hbetween h n
    unfold verifyNoneInUse
    split <;> next heq => rw [heq] at hcheck; first | exact ih hcheck | exact hcheck

end Between

end ServiceLifecycle.Provider
