import TaskMonitor.RejectedRequests
import TaskMonitor.StartUp

/-! What `processTaskAction` reports, against what `startTask`, `stopTask` and `restartTask`
return. -/

namespace TaskMonitor

open CText

def TookEffect (env : CbEnv) (req : TaskActionReq) (w after : CoreWorld) : Prop :=
  ∃ i t method, selectTask w.registry.taskList req.pid req.name = some i ∧
    w.registry.taskList[i]? = some t ∧ demandedCall env.fork req.action = some method ∧
    after = w.actOn i method ∧ (method t).ret = 0

def ActionAllowed (action : Int) (t : TaskObj) : Prop :=
  action = taskActionStart ∧ t.mStatus = .U ∨ action = taskActionStop ∧ t.mStatus ≠ .U ∨
    action = taskActionRestart

namespace TaskObj

theorem startTask_ret (t : TaskObj) (pid : Int) : (t.startTask pid).ret = 0 ↔ t.mStatus = .U := by
  by_cases idle : t.mStatus = .U
  · rw [startTask_of_idle idle]
    exact iff_of_true rfl idle
  · rw [startTask_of_active idle]
    exact iff_of_false (by simp) idle

theorem stopTask_ret (t : TaskObj) : t.stopTask.ret = 0 ↔ t.mStatus ≠ .U := by
  by_cases idle : t.mStatus = .U
  · rw [stopTask_of_idle idle]
    exact iff_of_false (by simp) (fun active => active idle)
  · rw [stopTask, if_neg idle]
    exact iff_of_true rfl idle

theorem restartTask_ret (t : TaskObj) (pid : Int) : (t.restartTask pid).ret = 0 := by
  have started : (t.stopTask.task.startTask pid).ret = 0 :=
    (t.stopTask.task.startTask_ret pid).mpr t.stopTask_idle
  rw [restartTask]
  exact started

end TaskObj

theorem demandedCall_works (fork action : Int) (t : TaskObj) :
    (∃ method, demandedCall fork action = some method ∧ (method t).ret = 0) ↔
      ActionAllowed action t := by
  rw [demandedCall, ActionAllowed]
  split
  · rename_i start
    subst start
    simp [t.startTask_ret fork, taskActionStart, taskActionStop, taskActionRestart]
  split
  · rename_i stop
    subst stop
    simp [t.stopTask_ret, taskActionStart, taskActionStop, taskActionRestart]
  split
  · rename_i restart
    subst restart
    simp [t.restartTask_ret fork]
  · simp_all

theorem tookEffect_iff {env : CbEnv} {req : TaskActionReq} {w : CoreWorld} {i : Nat} {t : TaskObj}
    (selects : selectTask w.registry.taskList req.pid req.name = some i)
    (found : w.registry.taskList[i]? = some t) :
    TookEffect env req w (processTaskAction env req w).world ↔ ActionAllowed req.action t := by
  rw [processTaskAction_makes selects, ← demandedCall_works env.fork req.action t]
  constructor
  · intro effect
    rcases effect with ⟨j, task, method, selected, there, demanded, _, works⟩
    obtain rfl := Option.some.inj (selects.symm.trans selected)
    obtain rfl := Option.some.inj (found.symm.trans there)
    exact ⟨method, demanded, works⟩
  · intro allowed
    rcases allowed with ⟨method, demanded, works⟩
    refine ⟨i, t, method, selects, found, demanded, ?_, works⟩
    rw [demanded]
    rfl

end TaskMonitor
