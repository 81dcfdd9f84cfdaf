import TaskMonitor.StartUp
import TaskMonitor.DaemonSteps
import Mathlib.Data.List.Forall2

/-! The entries that `processGetAllTask` writes, after any registrations and actions. -/

namespace TaskMonitor

open CText

inductive RegistryEvent where
  | register (param : TaskParm) (env : RegisterEnv)
  | action (env : CbEnv) (req : TaskActionReq)

def registryMachine : StepMachine CoreWorld RegistryEvent Unit where
  step w
    | .register param env => ((taskParamCb w param env).1, [])
    | .action env req => ((processTaskAction env req w).world, [])

/-- The loop of `processGetAllTask` from entry `i` on: the entries it writes, with their indices.
`int i` cannot be counted past 2^31 - 1: there is no result then. -/
def fillLoop (count : UInt32) : Nat → List TaskObj → Option (List (Nat × TaskSimpleInfo))
  | _, [] => some []
  | i, obj :: tasks =>
      if i = 2 ^ 31 - 1 then none
      else if UInt32.ofNat (i + 1) = count then some [(i, simpleInfo obj)]
      else (fillLoop count (i + 1) tasks).map ((i, simpleInfo obj) :: ·)

def written (count : Nat) (writes : List (Nat × TaskSimpleInfo)) : List TaskSimpleInfo :=
  writes.foldl (fun infos write => infos.set write.1 write.2) (List.replicate count noInfo)

structure EntryOf (t : TaskObj) (info : TaskSimpleInfo) : Prop where
  pid : info.pid = UInt32.ofInt t.mPid
  name : info.name.text = (content t.mName).take 31
  status : info.status.text = getStatusStr t.mStatus

structure ListingExact (w : CoreWorld) : Prop where
  counted : w.registry.s_taskCount.toNat = w.registry.taskList.length
  filled : ∃ writes, fillLoop w.registry.s_taskCount 0 w.registry.taskList = some writes ∧
    writes.map Prod.fst = List.range w.registry.s_taskCount.toNat ∧
    List.Forall₂ EntryOf w.registry.taskList (writes.map Prod.snd) ∧
    ∀ env : CbEnv, env.mallocOk = true → ∃ rsp, (processGetAllTask env w).reply = some rsp ∧
      rsp.count = w.registry.s_taskCount ∧ rsp.taskList = written rsp.count.toNat writes

theorem simpleInfo_entryOf (t : TaskObj) : EntryOf t (simpleInfo t) := by
  refine ⟨rfl, rfl, ?_⟩
  rw [simpleInfo, TaskObj.getTaskStatus]
  cases t.mStatus <;> rfl

theorem fillLoop_counted {count : UInt32} {i : Nat} {tasks : List TaskObj}
    (counted : i + tasks.length = count.toNat) (fits : count.toNat < 2 ^ 31) :
    fillLoop count i tasks =
      some ((List.range' i tasks.length).zip (tasks.map simpleInfo)) := by
  induction tasks generalizing i with
  | nil => rfl
  | cons obj tasks ih =>
      rw [List.length_cons] at counted
      have representable : i ≠ 2 ^ 31 - 1 := by omega
      rw [fillLoop, if_neg representable]
      by_cases last : UInt32.ofNat (i + 1) = count
      · have reached := congrArg UInt32.toNat last
        rw [UInt32.toNat_ofNat'] at reached
        have none_left : tasks = [] := List.length_eq_zero_iff.mp (by omega)
        rw [if_pos last, none_left]
        rfl
      · rw [if_neg last, ih (by omega)]
        rfl

theorem fillLoop_overflow {count : UInt32} {i : Nat} {tasks : List TaskObj}
    (counted : i + tasks.length = count.toNat) (many : 2 ^ 31 ≤ count.toNat)
    (representable : i ≤ 2 ^ 31 - 1) : fillLoop count i tasks = none := by
  induction tasks generalizing i with
  | nil =>
      rw [List.length_nil] at counted
      omega
  | cons obj tasks ih =>
      rw [List.length_cons] at counted
      rw [fillLoop]
      by_cases largest : i = 2 ^ 31 - 1
      · rw [if_pos largest]
      · have before : UInt32.ofNat (i + 1) ≠ count := by
          intro last
          have reached := congrArg UInt32.toNat last
          rw [UInt32.toNat_ofNat'] at reached
          omega
        rw [if_neg largest, if_neg before, ih (by omega) (by omega)]
        rfl

theorem foldl_set_zip (front infos : List TaskSimpleInfo) :
    ((List.range' front.length infos.length).zip infos).foldl
        (fun infos write => infos.set write.1 write.2)
        (front ++ List.replicate infos.length noInfo) = front ++ infos := by
  induction infos generalizing front with
  | nil => rfl
  | cons info infos ih =>
      have placed : (front ++ List.replicate (infos.length + 1) noInfo).set front.length info =
          (front ++ [info]) ++ List.replicate infos.length noInfo := by
        rw [List.set_append_right _ _ (Nat.le_refl _), Nat.sub_self, List.replicate_succ,
          List.set_cons_zero, List.append_assoc]
        rfl
      have later := ih (front ++ [info])
      rw [List.length_append, List.length_singleton] at later
      rw [List.length_cons, List.range'_succ, List.zip_cons_cons, List.foldl_cons, placed, later,
        List.append_assoc]
      rfl

theorem written_zip (infos : List TaskSimpleInfo) :
    written infos.length ((List.range' 0 infos.length).zip infos) = infos :=
  foldl_set_zip [] infos

theorem listing_full {count : Nat} {tasks : List TaskObj} (counted : count = tasks.length) :
    listing count tasks = tasks.map simpleInfo := by
  have whole : (tasks.map simpleInfo).take tasks.length = tasks.map simpleInfo :=
    List.take_of_length_le (by rw [List.length_map])
  rw [listing_eq_take counted.le, counted, whole]

/-- As long as the counter is the number of tasks modulo 2^32, the listing is exact below 2^31
tasks and only there. -/
theorem listingExact_iff {w : CoreWorld}
    (counter : w.registry.s_taskCount = UInt32.ofNat w.registry.taskList.length) :
    ListingExact w ↔ w.registry.taskList.length < 2 ^ 31 := by
  have word := congrArg UInt32.toNat counter
  rw [UInt32.toNat_ofNat'] at word
  constructor
  · intro exactly
    by_contra many
    rcases exactly.filled with ⟨writes, filled, _⟩
    have counted := exactly.counted
    have overflows : fillLoop w.registry.s_taskCount 0 w.registry.taskList = none :=
      fillLoop_overflow (by omega) (by omega) (by omega)
    rw [overflows] at filled
    cases filled
  · intro few
    have counted : w.registry.s_taskCount.toNat = w.registry.taskList.length := by omega
    have filled : fillLoop w.registry.s_taskCount 0 w.registry.taskList = some _ :=
      fillLoop_counted (by omega) (by omega)
    have lengths : (w.registry.taskList.map simpleInfo).length = w.registry.taskList.length :=
      List.length_map _
    refine ⟨counted, _, filled, ?_, ?_, ?_⟩
    · rw [List.map_fst_zip, counted, List.range_eq_range']
      rw [List.length_range', lengths]
    · rw [List.map_snd_zip, List.forall₂_map_right_iff]
      · exact List.forall₂_same.mpr fun t _ => simpleInfo_entryOf t
      · rw [List.length_range', lengths]
    · intro env memory
      rw [processGetAllTask, if_pos memory]
      refine ⟨_, rfl, rfl, ?_⟩
      dsimp only
      rw [listing_full counted, counted, ← lengths, written_zip]

theorem registryMachine_counter (w : CoreWorld) (e : RegistryEvent)
    (counter : w.registry.s_taskCount = UInt32.ofNat w.registry.taskList.length) :
    (registryMachine.next w e).registry.s_taskCount =
      UInt32.ofNat (registryMachine.next w e).registry.taskList.length := by
  cases e with
  | register param env =>
      have same : registryMachine.next w (.register param env) = (taskParamCb w param env).1 := rfl
      rw [same]
      cases works : env.timerOk with
      | true =>
          have made := taskParamCb_works (show (param, env).2.timerOk = true from works) w
          rw [made]
          dsimp only
          rw [counter, List.length_append, List.length_singleton, UInt32.ofNat_add]
          rfl
      | false =>
          have thrown := (taskParamCb_throws (show (param, env).2.timerOk = false from works) w).2
          rw [thrown]
          exact counter
  | action env req =>
      have size := Daemon.acted_size (processTaskAction_acted env req w)
      exact size.count.trans (counter.trans (congrArg UInt32.ofNat size.length.symm))

theorem registryMachine_run_counter (es : List RegistryEvent) :
    (registryMachine.run emptyWorld es).registry.s_taskCount =
      UInt32.ofNat (registryMachine.run emptyWorld es).registry.taskList.length :=
  registryMachine.run_invariant_all
    (fun w => w.registry.s_taskCount = UInt32.ofNat w.registry.taskList.length)
    registryMachine_counter es rfl

def registeredOften (n : Nat) (task : ConfiguredTask) : List RegistryEvent :=
  List.replicate n (.register task.1 task.2)

theorem registeredOften_length {task : ConfiguredTask} (works : task.2.timerOk = true) (n : Nat)
    (w : CoreWorld) :
    (registryMachine.run w (registeredOften n task)).registry.taskList.length =
      w.registry.taskList.length + n := by
  induction n generalizing w with
  | zero => rfl
  | succ n ih =>
      have made : (registryMachine.next w (.register task.1 task.2)).registry.taskList.length =
          w.registry.taskList.length + 1 := by
        have same : registryMachine.next w (.register task.1 task.2) =
          (taskParamCb w task.1 task.2).1 := rfl
        rw [same, taskParamCb_works works w]
        exact List.length_append
      rw [registeredOften, List.replicate_succ, StepMachine.run_cons]
      rw [← registeredOften, ih, made]
      omega

/-- After any run of registrations and actions the listing is exact if and only if there are fewer
than 2^31 tasks. -/
theorem listing_exact_after_run (es : List RegistryEvent) :
    ListingExact (registryMachine.run emptyWorld es) ↔
      (registryMachine.run emptyWorld es).registry.taskList.length < 2 ^ 31 :=
  listingExact_iff (registryMachine_run_counter es)

/-- With 2^31 registrations the index of the loop overflows. -/
theorem listing_of_too_many :
    ¬ ListingExact (registryMachine.run emptyWorld (registeredOften (2 ^ 31) catTask)) := by
  have works : catTask.2.timerOk = true := rfl
  have length := registeredOften_length works (2 ^ 31) emptyWorld
  have none_before : emptyWorld.registry.taskList.length = 0 := rfl
  rw [listingExact_iff (registryMachine_run_counter _), length, none_before, Nat.zero_add]
  exact Nat.lt_irrefl _

end TaskMonitor
