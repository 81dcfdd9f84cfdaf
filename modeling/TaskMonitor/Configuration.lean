import TaskMonitor.TaskConfig
import TaskMonitor.Library.CjsonText
import Mathlib.Data.List.Forall2

/-! What `parse_config_file` accepts, and what it leaves of `s_global_config` and of its nodes. -/

namespace TaskMonitor

open CText Cjson

structure IsEntry (item : Json) : Prop where
  object : item.isObject = true
  name : (stringItem item (text "name")).isSome = true
  path : (stringItem item (text "path")).isSome = true
  param : (stringItem item (text "param")).isSome = true
  heartbeat : (numberItem item (text "heartbeat")).isSome = true

theorem parseTask_eq_some_iff (item : Json) (taskNew parm : TaskParm) :
    parseTask item taskNew = some parm ↔
      IsEntry item ∧ ∃ heartbeat, numberItem item (text "heartbeat") = some heartbeat ∧
        parm = { taskNew with heartbeat := heartbeat } := by
  simp only [parseTask, Option.bind_eq_bind, Option.bind_eq_some_iff]
  constructor
  · intro made
    rcases made with ⟨name, nameItem, path, pathItem, param, paramItem, heartbeat, heartbeatItem,
      copied⟩
    have object := isObject_of_getObjectItem (stringItem_eq_some_iff.mp nameItem)
    have entry : IsEntry item :=
      { object
        name := Option.isSome_of_eq_some nameItem
        path := Option.isSome_of_eq_some pathItem
        param := Option.isSome_of_eq_some paramItem
        heartbeat := Option.isSome_of_eq_some heartbeatItem }
    exact ⟨entry, heartbeat, heartbeatItem, (Option.some.inj copied).symm⟩
  · intro made
    rcases made with ⟨entry, heartbeat, heartbeatItem, rfl⟩
    rcases Option.isSome_iff_exists.mp entry.name with ⟨name, nameItem⟩
    rcases Option.isSome_iff_exists.mp entry.path with ⟨path, pathItem⟩
    rcases Option.isSome_iff_exists.mp entry.param with ⟨param, paramItem⟩
    exact ⟨name, nameItem, path, pathItem, param, paramItem, heartbeat, heartbeatItem, rfl⟩

theorem parseTask_isSome_iff (item : Json) (taskNew : TaskParm) :
    (∃ parm, parseTask item taskNew = some parm) ↔ IsEntry item := by
  constructor
  · intro made
    rcases made with ⟨parm, made⟩
    exact ((parseTask_eq_some_iff item taskNew parm).mp made).1
  · intro entry
    rcases Option.isSome_iff_exists.mp entry.heartbeat with ⟨heartbeat, heartbeatItem⟩
    exact ⟨_, (parseTask_eq_some_iff item taskNew _).mpr ⟨entry, heartbeat, heartbeatItem, rfl⟩⟩

structure Allocating (p p' : Parsing) : Prop where
  config : p'.world.s_global_config = p.world.s_global_config
  grown : p.world.allocated ≤ p'.world.allocated
  ids : p'.tmpList.map TaskNode.id =
    (List.range' p.world.allocated (p'.world.allocated - p.world.allocated)).reverse ++
      p.tmpList.map TaskNode.id

theorem Allocating.refl (p : Parsing) : Allocating p p := by
  refine ⟨rfl, Nat.le_refl _, ?_⟩
  rw [Nat.sub_self]
  rfl

theorem Allocating.trans {p q r : Parsing} (first : Allocating p q) (second : Allocating q r) :
    Allocating p r := by
  have grown := first.grown
  have grown' := second.grown
  refine ⟨second.config.trans first.config, by omega, ?_⟩
  have total : r.world.allocated - p.world.allocated =
      (q.world.allocated - p.world.allocated) + (r.world.allocated - q.world.allocated) := by
    omega
  have joined : List.range' p.world.allocated (r.world.allocated - p.world.allocated) =
      List.range' p.world.allocated (q.world.allocated - p.world.allocated) ++
        List.range' q.world.allocated (r.world.allocated - q.world.allocated) := by
    rw [total, ← List.range'_append_1, Nat.add_sub_cancel' grown]
  rw [second.ids, first.ids, joined, List.reverse_append, List.append_assoc]

theorem listAdd_allocating (p : Parsing) (parm : TaskParm) : Allocating p (p.listAdd parm) := by
  refine ⟨rfl, Nat.le_succ _, ?_⟩
  have one : (p.listAdd parm).world.allocated - p.world.allocated = 1 := Nat.add_sub_cancel_left _ _
  rw [one]
  rfl

theorem parseTasks_allocating (mallocOk : Nat → Bool) (i : Nat) (items : List Json)
    (p : Parsing) : Allocating p (parseTasks mallocOk i items p).1 := by
  induction items generalizing i p with
  | nil => exact .refl p
  | cons item items ih =>
      rw [parseTasks]
      split
      · split
        · exact listAdd_allocating p blankParm
        · exact (listAdd_allocating p _).trans (ih (i + 1) _)
      · exact .refl p

theorem parseTasks_filled {mallocOk : Nat → Bool} {i : Nat} {items : List Json} {p : Parsing}
    (finished : (parseTasks mallocOk i items p).2 = true) :
    ∃ parms, List.Forall₂ (fun item parm => parseTask item blankParm = some parm) items parms ∧
      (parseTasks mallocOk i items p).1.tmpList.map TaskNode.parm =
        parms.reverse ++ p.tmpList.map TaskNode.parm := by
  induction items generalizing i p with
  | nil => exact ⟨[], .nil, rfl⟩
  | cons item items ih =>
      rw [parseTasks] at finished ⊢
      cases works : mallocOk i with
      | false =>
          rw [works] at finished
          cases finished
      | true =>
          rw [works] at finished
          cases made : parseTask item blankParm with
          | none =>
              rw [made] at finished
              cases finished
          | some taskNew =>
              rw [made] at finished
              rcases ih finished with ⟨parms, copied, filled⟩
              refine ⟨taskNew :: parms, .cons made copied, filled.trans ?_⟩
              rw [List.reverse_cons, List.append_assoc]
              rfl

theorem parseTasks_finishes_iff (i : Nat) (items : List Json) (p : Parsing) :
    (parseTasks (fun _ => true) i items p).2 = true ↔ ∀ item ∈ items, IsEntry item := by
  induction items generalizing i p with
  | nil => simp [parseTasks]
  | cons item items ih =>
      rw [parseTasks, List.forall_mem_cons, ← parseTask_isSome_iff item blankParm]
      cases made : parseTask item blankParm with
      | none => simp
      | some taskNew => simp [ih]

inductive ParseOutcome (codec : Codec) (buf : Text) (w : ConfigWorld) : ConfigResult → Prop where
  | unread : ParseOutcome codec buf w ⟨-1, w, []⟩
  | rejected (p : Parsing) (allocating : Allocating (.start w) p) :
      ParseOutcome codec buf w ⟨-1, p.world, p.tmpList.map TaskNode.id⟩
  | accepted (root list : Json) (maxTasks : UInt32) (queryIntvl : ℚ) (p : Parsing)
      (parms : List TaskParm) (parsed : codec.parse buf = some root)
      (tasks : getObjectItem root (text "tasks") = some list)
      (allocating : Allocating (.start w) p)
      (copied : List.Forall₂ (fun item parm => parseTask item blankParm = some parm) list.children
        parms)
      (filled : p.tmpList.map TaskNode.parm = parms.reverse) :
      ParseOutcome codec buf w (setGlobalConfig maxTasks queryIntvl p)

theorem configItems_eq_some_iff (root : Json) (maxTasks queryIntvl : ℚ) (list : Json) :
    configItems root = some (maxTasks, queryIntvl, list) ↔
      numberItem root (text "maxTasks") = some maxTasks ∧
        numberItem root (text "queryInterval") = some queryIntvl ∧
        getObjectItem root (text "tasks") = some list := by
  simp only [configItems, Option.bind_eq_bind, Option.bind_eq_some_iff]
  constructor
  · intro found
    rcases found with ⟨_, first, _, second, _, third, same⟩
    cases same
    exact ⟨first, second, third⟩
  · intro found
    exact ⟨_, found.1, _, found.2.1, _, found.2.2, rfl⟩

theorem parseList_eq (mallocOk : Nat → Bool) (maxTasks : UInt32) (queryIntvl : ℚ) (list : Json)
    (w : ConfigWorld) :
    parseList mallocOk maxTasks queryIntvl list w =
      if (parseTasks mallocOk 0 list.children (.start w)).2 = true then
        setGlobalConfig maxTasks queryIntvl (parseTasks mallocOk 0 list.children (.start w)).1
      else
        ⟨-1, (parseTasks mallocOk 0 list.children (.start w)).1.world,
          (parseTasks mallocOk 0 list.children (.start w)).1.tmpList.map TaskNode.id⟩ := by
  rw [parseList]
  by_cases empty : list.children.length = 0
  · rw [if_pos empty, List.length_eq_zero_iff.mp empty]
    rfl
  · rw [if_neg empty]
    cases parseTasks mallocOk 0 list.children (.start w) with
    | mk p finished => cases finished <;> rfl

theorem parseConfigFile_outcome (codec : Codec) (env : ParseEnv) (buf : Text) (w : ConfigWorld) :
    ParseOutcome codec buf w (parseConfigFile codec env buf w) := by
  rw [parseConfigFile]
  cases readable : env.parseOk with
  | false => exact .unread
  | true =>
      rw [if_pos rfl]
      cases items : (codec.parse buf).bind configItems with
      | none => exact .unread
      | some items' =>
          rcases items' with ⟨maxTasks, queryIntvl, list⟩
          rcases Option.bind_eq_some_iff.mp items with ⟨root, parsed, looked_at⟩
          rcases (configItems_eq_some_iff _ _ _ _).mp looked_at with ⟨_, _, tasks⟩
          have allocating := parseTasks_allocating env.mallocOk 0 list.children (.start w)
          dsimp only
          rw [parseList_eq]
          split
          · rename_i finished
            rcases parseTasks_filled finished with ⟨parms, copied, filled⟩
            exact .accepted root list _ _ _ parms parsed tasks allocating copied
              (filled.trans (List.append_nil _))
          · exact .rejected _ allocating

theorem foreachTask_records {α : Type*} (tasks calls : List α) :
    (foreachTask (fun calls pos => (calls ++ [pos], true)) tasks calls).1 = calls ++ tasks := by
  induction tasks generalizing calls with
  | nil => exact (List.append_nil calls).symm
  | cons pos later ih =>
      rw [foreachTask, if_pos rfl, ih, List.append_assoc]
      rfl

theorem foreachTaskCalls_eq (w : ConfigWorld) :
    foreachTaskCalls w = w.s_global_config.list.map TaskNode.parm :=
  foreachTask_records _ []

/-- An accepted file read into the cleared configuration: the calls of `foreach_task` are made with
what the entries were parsed to, in their order. -/
theorem accepted_calls {codec : Codec} {env : ParseEnv} {buf : Text} {w : ConfigWorld}
    (accepted : (parseConfigFile codec env buf (clearConfig w)).ret = 0) :
    ∃ root list, codec.parse buf = some root ∧ getObjectItem root (text "tasks") = some list ∧
      List.Forall₂ (fun item parm => parseTask item blankParm = some parm) list.children
        (foreachTaskCalls (parseConfigFile codec env buf (clearConfig w)).world) := by
  have outcome := parseConfigFile_outcome codec env buf (clearConfig w)
  generalize parseConfigFile codec env buf (clearConfig w) = r at accepted outcome ⊢
  cases outcome with
  | unread => cases accepted
  | rejected p allocating => cases accepted
  | accepted root list maxTasks queryIntvl p parms parsed tasks allocating copied filled =>
      have cleared : p.world.s_global_config.list = [] :=
        congrArg TaskConfig.list allocating.config
      have calls : foreachTaskCalls (setGlobalConfig maxTasks queryIntvl p).world = parms := by
        calc
          foreachTaskCalls (setGlobalConfig maxTasks queryIntvl p).world =
              (moveTasks p.tmpList p.world.s_global_config.list).map TaskNode.parm :=
            foreachTaskCalls_eq _
          _ = p.tmpList.reverse.map TaskNode.parm := by
            rw [moveTasks_eq, cleared, List.append_nil]
          _ = parms := by rw [List.map_reverse, filled, List.reverse_reverse]
      rw [calls]
      exact ⟨root, list, parsed, tasks, copied⟩

theorem accepted_array_calls {codec : Codec} {env : ParseEnv} {buf : Text} {w : ConfigWorld}
    {root : Json} {entries : List Json} (parsed : codec.parse buf = some root)
    (tasks : getObjectItem root (text "tasks") = some (.array entries))
    (accepted : (parseConfigFile codec env buf (clearConfig w)).ret = 0) :
    List.Forall₂ (fun item parm => parseTask item blankParm = some parm) entries
      (foreachTaskCalls (parseConfigFile codec env buf (clearConfig w)).world) := by
  rcases accepted_calls accepted with ⟨root', list, parsed', tasks', copied⟩
  obtain rfl := Option.some.inj (parsed.symm.trans parsed')
  obtain rfl := Option.some.inj (tasks.symm.trans tasks')
  exact copied

theorem taskConfigInit_calls {codec : Codec} {env : ParseEnv} {file : ConfigFile} {w : ConfigWorld}
    {r : ConfigResult} (init : taskConfigInit codec env file w = some r) (succeeds : r.ret = 0) :
    ∃ readLen root list, codec.parse (file.buffer readLen) = some root ∧
      getObjectItem root (text "tasks") = some list ∧
      List.Forall₂ (fun item parm => parseTask item blankParm = some parm) list.children
        (foreachTaskCalls r.world) := by
  rw [taskConfigInit] at init
  split at init
  · split at init
    · cases init
    · obtain rfl := Option.some.inj init
      cases succeeds
    · rename_i readLen _
      obtain rfl := Option.some.inj init
      exact ⟨readLen, accepted_calls succeeds⟩
  · obtain rfl := Option.some.inj init
    cases succeeds

def AllocatedIn (w w' : ConfigWorld) (n : Nat) : Prop := w.allocated ≤ n ∧ n < w'.allocated

theorem tmpList_count {w : ConfigWorld} {p : Parsing} (allocating : Allocating (.start w) p)
    {n : Nat} (fresh : AllocatedIn w p.world n) : (p.tmpList.map TaskNode.id).count n = 1 := by
  have ids : p.tmpList.map TaskNode.id =
      (List.range' w.allocated (p.world.allocated - w.allocated)).reverse :=
    allocating.ids.trans (List.append_nil _)
  rcases fresh with ⟨above, below⟩
  have member : n ∈ List.range' w.allocated (p.world.allocated - w.allocated) := by
    rw [List.mem_range'_1]
    omega
  rw [ids, List.count_reverse, List.Nodup.count (List.nodup_range' _), if_pos member]

theorem linked_not_mem {w : ConfigWorld} {p : Parsing} (allocating : Allocating (.start w) p)
    {n : Nat} (fresh : AllocatedIn w p.world n) :
    n ∉ p.world.s_global_config.list.map TaskNode.id := by
  have config : p.world.s_global_config = w.s_global_config := allocating.config
  rw [config]
  intro member
  rcases List.mem_map.mp member with ⟨node, linked, rfl⟩
  have before := w.linked node linked
  have after := fresh.1
  omega

theorem moved_count {w : ConfigWorld} {p : Parsing} (allocating : Allocating (.start w) p)
    {n : Nat} (fresh : AllocatedIn w p.world n) :
    ((moveTasks p.tmpList p.world.s_global_config.list).map TaskNode.id).count n = 1 := by
  have unlinked := List.count_eq_zero.mpr (linked_not_mem allocating fresh)
  calc
    ((moveTasks p.tmpList p.world.s_global_config.list).map TaskNode.id).count n =
        (p.tmpList.map TaskNode.id).count n +
          (p.world.s_global_config.list.map TaskNode.id).count n := by
      rw [moveTasks_eq, List.map_append, List.count_append, List.map_reverse, List.count_reverse]
    _ = 1 := by rw [tmpList_count allocating fresh, unlinked]

theorem parseList_accepts_iff (maxTasks : UInt32) (queryIntvl : ℚ) (list : Json)
    (w : ConfigWorld) :
    (parseList (fun _ => true) maxTasks queryIntvl list w).ret = 0 ↔
      ∀ item ∈ list.children, IsEntry item := by
  have finishes_iff := parseTasks_finishes_iff 0 list.children (.start w)
  rw [parseList_eq, ← finishes_iff]
  split
  · rename_i finished
    exact iff_of_true rfl finished
  · rename_i broken_off
    exact iff_of_false (by simp) broken_off

/-- With memory for everything, a text is accepted if it has the items that are looked at, and all
children of the item `tasks` are entries, whatever that item is. -/
theorem parseConfigFile_accepts_iff (codec : Codec) (buf : Text) (w : ConfigWorld) :
    (parseConfigFile codec ⟨true, fun _ => true⟩ buf w).ret = 0 ↔
      ∃ root list, codec.parse buf = some root ∧
        (numberItem root (text "maxTasks")).isSome = true ∧
        (numberItem root (text "queryInterval")).isSome = true ∧
        getObjectItem root (text "tasks") = some list ∧ ∀ item ∈ list.children, IsEntry item := by
  rw [parseConfigFile, if_pos rfl]
  constructor
  · intro accepted
    cases items : (codec.parse buf).bind configItems with
    | none =>
        rw [items] at accepted
        cases accepted
    | some items' =>
        rcases items' with ⟨maxTasks, queryIntvl, list⟩
        rcases Option.bind_eq_some_iff.mp items with ⟨root, parsed, looked_at⟩
        have found := (configItems_eq_some_iff _ _ _ _).mp looked_at
        rw [items] at accepted
        have entries := (parseList_accepts_iff _ _ list w).mp accepted
        exact ⟨root, list, parsed, Option.isSome_of_eq_some found.1,
          Option.isSome_of_eq_some found.2.1, found.2.2, entries⟩
  · intro documented
    rcases documented with ⟨root, list, parsed, first, second, tasks, entries⟩
    rcases Option.isSome_iff_exists.mp first with ⟨maxTasks, maxTasksItem⟩
    rcases Option.isSome_iff_exists.mp second with ⟨queryIntvl, queryIntvlItem⟩
    have looked_at := (configItems_eq_some_iff root maxTasks queryIntvl list).mpr
      ⟨maxTasksItem, queryIntvlItem, tasks⟩
    rw [parsed, Option.bind_some, looked_at]
    exact (parseList_accepts_iff _ _ list w).mpr entries

structure StringsOf (item : Json) (parm : TaskParm) : Prop where
  name : ∃ name, stringItem item (text "name") = some name ∧
    parm.name = strncpy 32 nameSize_pos name
  path : ∃ path, stringItem item (text "path") = some path ∧
    parm.path = strncpy 64 pathSize_pos path
  param : ∃ param, stringItem item (text "param") = some param ∧
    parm.param = strncpy 128 paramSize_pos param

def NoStrings (item : Json) : Prop :=
  ∀ key ∈ [text "name", text "path", text "param"], ∀ s, stringItem item key = some s →
    content s = []

def Documented (root : Json) : Prop :=
  root.isObject = true ∧ (numberItem root (text "maxTasks")).isSome = true ∧
    (numberItem root (text "queryInterval")).isSome = true ∧
    ∃ entries, getObjectItem root (text "tasks") = some (.array entries) ∧
      ∀ item ∈ entries, IsEntry item

theorem strncpy_zero_iff {size : Nat} (room : 1 < size) (positive : 0 < size) (s : Text) :
    CharArray.zero size positive = strncpy size positive s ↔ content s = [] := by
  rw [CharArray.zero, strncpy, CharArray.mk.injEq, eq_comm, List.take_eq_nil_iff]
  constructor
  · intro empty
    cases empty with
    | inl none_copied => omega
    | inr empty => exact empty
  · exact Or.inr

theorem parseTask_strings_iff {item : Json} {parm : TaskParm}
    (made : parseTask item blankParm = some parm) : StringsOf item parm ↔ NoStrings item := by
  rcases (parseTask_eq_some_iff item blankParm parm).mp made with ⟨entry, heartbeat, _, rfl⟩
  rcases Option.isSome_iff_exists.mp entry.name with ⟨name, nameItem⟩
  rcases Option.isSome_iff_exists.mp entry.path with ⟨path, pathItem⟩
  rcases Option.isSome_iff_exists.mp entry.param with ⟨param, paramItem⟩
  have name_iff := strncpy_zero_iff (by decide) nameSize_pos name
  have path_iff := strncpy_zero_iff (by decide) pathSize_pos path
  have param_iff := strncpy_zero_iff (by decide) paramSize_pos param
  have all_three : NoStrings item ↔ content name = [] ∧ content path = [] ∧ content param = [] := by
    simp [NoStrings, nameItem, pathItem, paramItem]
  rw [all_three]
  constructor
  · intro strings
    rcases strings with ⟨⟨name', nameItem', same⟩, ⟨path', pathItem', same'⟩, ⟨param', paramItem',
      same''⟩⟩
    obtain rfl := Option.some.inj (nameItem.symm.trans nameItem')
    obtain rfl := Option.some.inj (pathItem.symm.trans pathItem')
    obtain rfl := Option.some.inj (paramItem.symm.trans paramItem')
    exact ⟨name_iff.mp same, path_iff.mp same', param_iff.mp same''⟩
  · intro none_of_them
    rcases none_of_them with ⟨first, second, third⟩
    exact ⟨⟨name, nameItem, name_iff.mpr first⟩, ⟨path, pathItem, path_iff.mpr second⟩,
      ⟨param, paramItem, param_iff.mpr third⟩⟩

theorem forall₂_iff_forall {α β : Type*} {R S : α → β → Prop} {P : α → Prop} {xs : List α}
    {ys : List β} (paired : List.Forall₂ R xs ys) (same : ∀ x y, R x y → (S x y ↔ P x)) :
    List.Forall₂ S xs ys ↔ ∀ x ∈ xs, P x := by
  induction paired with
  | nil => simp
  | cons related _ ih =>
      rw [List.forall₂_cons, ih, List.forall_mem_cons, same _ _ related]

/-- In an accepted file with an array of entries, the strings reach the tasks exactly when they are
all empty. -/
theorem configured_strings_iff {codec : Codec} {env : ParseEnv} {buf : Text} {w : ConfigWorld}
    {root : Json} {entries : List Json} (parsed : codec.parse buf = some root)
    (tasks : getObjectItem root (text "tasks") = some (.array entries))
    (accepted : (parseConfigFile codec env buf (clearConfig w)).ret = 0) :
    List.Forall₂ StringsOf entries
        (foreachTaskCalls (parseConfigFile codec env buf (clearConfig w)).world) ↔
      ∀ item ∈ entries, NoStrings item :=
  forall₂_iff_forall (accepted_array_calls parsed tasks accepted) fun _ _ => parseTask_strings_iff

def entryOf (name path : String) (heartbeat : ℚ) : Json :=
  .object [(text "name", .string (text name)), (text "path", .string (text path)),
    (text "param", .string []), (text "heartbeat", .number heartbeat)]

def configOf (tasks : Json) : Json :=
  .object [(text "maxTasks", .number 10), (text "queryInterval", .number 2), (text "tasks", tasks)]

def parsedConfig (tasks : Json) : ConfigResult :=
  parseConfigFile textCodec ⟨true, fun _ => true⟩ (textCodec.print (configOf tasks)).bytes
    (clearConfig ⟨⟨0, 0, []⟩, 0, by simp⟩)

theorem configured_strings_empty :
    (parsedConfig (.array [entryOf "" "" 5])).ret = 0 ∧
      List.Forall₂ StringsOf [entryOf "" "" 5]
        (foreachTaskCalls (parsedConfig (.array [entryOf "" "" 5])).world) := by
  have parsed : textCodec.parse (textCodec.print (configOf (.array [entryOf "" "" 5]))).bytes =
      some (configOf (.array [entryOf "" "" 5])) := rfl
  refine ⟨rfl, (configured_strings_iff parsed rfl rfl).mpr ?_⟩
  intro item member key listed s found
  obtain rfl := List.mem_singleton.mp member
  simp only [List.mem_cons, List.not_mem_nil, or_false] at listed
  rcases listed with rfl | rfl | rfl
  · obtain rfl := Option.some.inj found
    rfl
  · obtain rfl := Option.some.inj found
    rfl
  · obtain rfl := Option.some.inj found
    rfl

/-- A task `cat` is passed on with an empty name and an empty path. -/
theorem cat_strings_are_lost :
    (parsedConfig (.array [entryOf "cat" "/bin/cat" 5])).ret = 0 ∧
      ¬ List.Forall₂ StringsOf [entryOf "cat" "/bin/cat" 5]
        (foreachTaskCalls (parsedConfig (.array [entryOf "cat" "/bin/cat" 5])).world) := by
  refine ⟨rfl, ?_⟩
  intro strings
  cases strings with
  | cons fields _ =>
      rcases fields.name with ⟨name, item, same⟩
      obtain rfl := Option.some.inj item
      exact absurd (congrArg CharArray.text same) (by decide)

/-- The two insertions at the head keep the order of the entries. -/
theorem configuration_order_kept {codec : Codec} {env : ParseEnv} {buf : Text} {w : ConfigWorld}
    {root : Json} {entries : List Json} (parsed : codec.parse buf = some root)
    (tasks : getObjectItem root (text "tasks") = some (.array entries))
    (accepted : (parseConfigFile codec env buf (clearConfig w)).ret = 0) :
    List.Forall₂ (fun item parm => numberItem item (text "heartbeat") = some parm.heartbeat) entries
      (foreachTaskCalls (parseConfigFile codec env buf (clearConfig w)).world) := by
  apply (accepted_array_calls parsed tasks accepted).imp
  intro item parm made
  rcases (parseTask_eq_some_iff item blankParm parm).mp made with ⟨_, heartbeat, item', rfl⟩
  exact item'

def twoEntries : List Json := [entryOf "cat" "/bin/cat" 5, entryOf "ls" "/bin/ls" 8]

set_option maxRecDepth 2000 in
theorem two_tasks_in_order :
    (parsedConfig (.array twoEntries)).ret = 0 ∧
      List.Forall₂ (fun item parm => numberItem item (text "heartbeat") = some parm.heartbeat)
        twoEntries (foreachTaskCalls (parsedConfig (.array twoEntries)).world) := by
  have parsed : textCodec.parse (textCodec.print (configOf (.array twoEntries))).bytes =
      some (configOf (.array twoEntries)) := rfl
  have accepted : (parsedConfig (.array twoEntries)).ret = 0 := rfl
  exact ⟨accepted, configuration_order_kept parsed rfl accepted⟩

/-- A text is accepted exactly when it is documented, if and only if it is not accepted with an
item `tasks` that is no array. -/
theorem accepts_documented_iff (codec : Codec) (buf : Text) (w : ConfigWorld) :
    ((parseConfigFile codec ⟨true, fun _ => true⟩ buf w).ret = 0 ↔
        ∃ root, codec.parse buf = some root ∧ Documented root) ↔
      ∀ root list, codec.parse buf = some root →
        (numberItem root (text "maxTasks")).isSome = true →
        (numberItem root (text "queryInterval")).isSome = true →
        getObjectItem root (text "tasks") = some list →
        (∃ entries, list = .array entries) ∨ ∃ item ∈ list.children, ¬ IsEntry item := by
  rw [parseConfigFile_accepts_iff]
  constructor
  · intro exactly root list parsed first second tasks
    by_contra neither
    rw [not_or, not_exists, not_exists] at neither
    have entries : ∀ item ∈ list.children, IsEntry item := by
      intro item member
      by_contra bad
      exact neither.2 item ⟨member, bad⟩
    rcases exactly.mp ⟨root, list, parsed, first, second, tasks, entries⟩ with
      ⟨root', parsed', _, _, _, items, tasks', _⟩
    obtain rfl := Option.some.inj (parsed.symm.trans parsed')
    exact neither.1 items (Option.some.inj (tasks.symm.trans tasks'))
  · intro arrays
    constructor
    · intro accepted
      rcases accepted with ⟨root, list, parsed, first, second, tasks, entries⟩
      have object := isObject_of_getObjectItem tasks
      cases arrays root list parsed first second tasks with
      | inl array =>
          rcases array with ⟨items, rfl⟩
          exact ⟨root, parsed, object, first, second, items, tasks, entries⟩
      | inr bad =>
          rcases bad with ⟨item, member, bad⟩
          exact absurd (entries item member) bad
    · intro documented
      rcases documented with ⟨root, parsed, _, first, second, items, tasks, entries⟩
      exact ⟨root, .array items, parsed, first, second, tasks, entries⟩

/-- A number in the place of the list is accepted. -/
theorem number_of_tasks_is_accepted :
    (parsedConfig (.number 7)).ret = 0 ∧
      textCodec.parse (textCodec.print (configOf (.number 7))).bytes =
        some (configOf (.number 7)) ∧
      ¬ Documented (configOf (.number 7)) := by
  refine ⟨rfl, rfl, ?_⟩
  intro documented
  rcases documented with ⟨_, _, _, entries, tasks, _⟩
  have number : getObjectItem (configOf (.number 7)) (text "tasks") = some (.number 7) := rfl
  rw [number] at tasks
  cases tasks

/-- Whatever the text and the failures: a call that fails leaves the configuration as it was and
has freed every node it allocated once, and a call that succeeds has every one of them on the list
once. -/
theorem bad_configuration_leaves_no_trace (codec : Codec) (env : ParseEnv) (buf : Text)
    (w : ConfigWorld) :
    let r := parseConfigFile codec env buf w
    let reachable := r.world.s_global_config.list.map TaskNode.id
    (r.ret = -1 → r.world.s_global_config = w.s_global_config ∧
      ∀ n, AllocatedIn w r.world n → r.freed.count n = 1 ∧ n ∉ reachable) ∧
    (r.ret = 0 → ∀ n, AllocatedIn w r.world n → n ∉ r.freed ∧ reachable.count n = 1) ∧
    (r.ret = -1 ∨ r.ret = 0) := by
  have outcome := parseConfigFile_outcome codec env buf w
  generalize parseConfigFile codec env buf w = r at outcome
  intro r' reachable
  cases outcome with
  | unread =>
      refine ⟨fun _ => ⟨rfl, ?_⟩, by simp [r'], .inl rfl⟩
      intro n fresh
      exact absurd fresh.2 (Nat.not_lt.mpr fresh.1)
  | rejected p allocating =>
      refine ⟨fun _ => ⟨allocating.config, ?_⟩, by simp [r'], .inl rfl⟩
      intro n fresh
      exact ⟨tmpList_count allocating fresh, linked_not_mem allocating fresh⟩
  | accepted root list maxTasks queryIntvl p parms parsed tasks allocating copied filled =>
      refine ⟨by simp [r', setGlobalConfig], fun _ => ?_, .inr rfl⟩
      intro n fresh
      exact ⟨linked_not_mem allocating fresh, moved_count allocating fresh⟩

end TaskMonitor
