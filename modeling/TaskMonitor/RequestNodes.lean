import TaskMonitor.PendingRequests

/-! The memory of the requests of a `MsgClient`: their nodes and their timers, over whole runs. -/

namespace TaskMonitor

open CText Cjson

namespace MsgClient

variable {κ : Type*}

def freedNode : ClientOut κ → Option Nat
  | .freed node => some node
  | _ => none

def freedNodes (outs : List (ClientOut κ)) : List Nat := outs.filterMap freedNode

theorem freedNodes_append (front back : List (ClientOut κ)) :
    freedNodes (front ++ back) = freedNodes front ++ freedNodes back := List.filterMap_append

/-- The linked requests are all there is: each has a node and a timer under its own number. -/
structure Ledger (w : ClientWorld κ) : Prop where
  nodes : w.nodes = w.client.mRequestList.map MsgRequest.node
  timers : w.timers = w.client.mRequestList.map fun r => (r.node, r.node)
  timer : ∀ r ∈ w.client.mRequestList, r.timer = some r.node
  nodup : (w.client.mRequestList.map MsgRequest.node).Nodup
  issued : ∀ r ∈ w.client.mRequestList, r.node ≤ w.issued

/-- What an operation does to the nodes: it frees some that were allocated before it or by it,
each once. -/
structure Turnover (w w' : ClientWorld κ) (outs : List (ClientOut κ)) : Prop where
  ledger : Ledger w'
  issued : w.issued ≤ w'.issued
  nodes : ∀ node ∈ w'.nodes, node ∈ w.nodes ∨ w.issued < node
  origin : ∀ node ∈ freedNodes outs, node ∈ w.nodes ∨ w.issued < node
  gone : ∀ node ∈ freedNodes outs, node ≤ w'.issued ∧ node ∉ w'.nodes
  once : (freedNodes outs).Nodup

theorem Turnover.quiet {w w' : ClientWorld κ} {outs : List (ClientOut κ)} (ledger : Ledger w')
    (issued : w.issued ≤ w'.issued) (nodes : ∀ node ∈ w'.nodes, node ∈ w.nodes ∨ w.issued < node)
    (silent : freedNodes outs = []) : Turnover w w' outs := by
  refine ⟨ledger, issued, nodes, ?_, ?_, ?_⟩
  · rw [silent]
    exact fun node member => absurd member List.not_mem_nil
  · rw [silent]
    exact fun node member => absurd member List.not_mem_nil
  · rw [silent]
    exact List.nodup_nil

theorem Turnover.refl {w : ClientWorld κ} (ledger : Ledger w) : Turnover w w [] :=
  .quiet ledger (Nat.le_refl _) (fun _ member => Or.inl member) rfl

theorem Turnover.trans {w₁ w₂ w₃ : ClientWorld κ} {outs₁ outs₂ : List (ClientOut κ)}
    (first : Turnover w₁ w₂ outs₁) (second : Turnover w₂ w₃ outs₂) :
    Turnover w₁ w₃ (outs₁ ++ outs₂) := by
  have earlier := first.issued
  have later := second.issued
  have back : ∀ node, node ∈ w₂.nodes ∨ w₂.issued < node → node ∈ w₁.nodes ∨ w₁.issued < node := by
    intro node known
    cases known with
    | inl allocated => exact first.nodes node allocated
    | inr fresh => exact Or.inr (by omega)
  have stays_gone : ∀ node, node ≤ w₂.issued → node ∉ w₂.nodes →
      ¬ (node ∈ w₂.nodes ∨ w₂.issued < node) := by
    intro node old gone known
    cases known with
    | inl allocated => exact gone allocated
    | inr fresh => omega
  constructor
  · exact second.ledger
  · omega
  · intro node member
    exact back node (second.nodes node member)
  · intro node member
    rw [freedNodes_append] at member
    cases List.mem_append.mp member with
    | inl inside => exact first.origin node inside
    | inr inside => exact back node (second.origin node inside)
  · intro node member
    rw [freedNodes_append] at member
    cases List.mem_append.mp member with
    | inl inside =>
        rcases first.gone node inside with ⟨old, gone⟩
        exact ⟨by omega, fun again => stays_gone node old gone (second.nodes node again)⟩
    | inr inside => exact second.gone node inside
  · rw [freedNodes_append, List.nodup_append']
    refine ⟨first.once, second.once, ?_⟩
    intro node inFirst inSecond
    rcases first.gone node inFirst with ⟨old, gone⟩
    exact stays_gone node old gone (second.origin node inSecond)

theorem Ledger.node_le {w : ClientWorld κ} (ledger : Ledger w) :
    ∀ node ∈ w.nodes, node ≤ w.issued := by
  intro node member
  rw [ledger.nodes] at member
  rcases List.mem_map.mp member with ⟨r, linked, rfl⟩
  exact ledger.issued r linked

theorem Ledger.getNextReqId {w : ClientWorld κ} (ledger : Ledger w) :
    Ledger (getNextReqId w).2 :=
  ⟨ledger.nodes, ledger.timers, ledger.timer, ledger.nodup,
    fun r member => Nat.le_succ_of_le (ledger.issued r member)⟩

theorem Ledger.link {w : ClientWorld κ} (ledger : Ledger w) (req : MsgRequest κ)
    (fresh : w.issued < req.node) (timer : req.timer = some req.node) (reqId : UInt32) :
    Ledger
      { w with
        client := { w.client with
          mRequestList := req :: w.client.mRequestList, mCurReqId := reqId }
        issued := req.node
        nodes := req.node :: w.nodes
        timers := (req.node, req.node) :: w.timers } := by
  constructor
  · exact congrArg (List.cons _) ledger.nodes
  · exact congrArg (List.cons _) ledger.timers
  · intro r member
    cases List.mem_cons.mp member with
    | inl new => rw [new, timer]
    | inr old => exact ledger.timer r old
  · rw [List.map_cons, List.nodup_cons]
    refine ⟨?_, ledger.nodup⟩
    intro taken
    rcases List.mem_map.mp taken with ⟨r, member, same⟩
    have bound := ledger.issued r member
    omega
  · intro r member
    cases List.mem_cons.mp member with
    | inl new => rw [new]
    | inr old =>
        have bound := ledger.issued r old
        dsimp only
        omega

theorem Ledger.unlinked {w : ClientWorld κ} (ledger : Ledger w) :
    Turnover w (MsgClient.getNextReqId w).2 [] :=
  .quiet ledger.getNextReqId (Nat.le_succ _) (fun _ member => Or.inl member) rfl

theorem Ledger.unlinked_node {w : ClientWorld κ} (ledger : Ledger w) :
    Turnover w (MsgClient.getNextReqId w).2 [.freed (w.issued + 1)] := by
  have unallocated : w.issued + 1 ∉ w.nodes := by
    intro member
    have bound := ledger.node_le _ member
    omega
  have unlinked := ledger.unlinked
  refine ⟨unlinked.ledger, unlinked.issued, unlinked.nodes, ?_, ?_, List.nodup_singleton _⟩
  · intro node member
    rw [List.mem_singleton.mp member]
    exact Or.inr (Nat.lt_succ_self _)
  · intro node member
    rw [List.mem_singleton.mp member]
    exact ⟨Nat.le_refl _, unallocated⟩

theorem sendRequest_turnover {w : ClientWorld κ} (ledger : Ledger w) (a : SendArgs κ) :
    Turnover w (sendRequest w a).world (sendRequest w a).outs := by
  rw [sendRequest]
  dsimp only
  split
  · exact ledger.unlinked
  split
  · exact ledger.unlinked
  split
  · exact ledger.unlinked
  unfold reqNodeCreate
  dsimp only
  cases a.mallocOk with
  | false => exact ledger.unlinked
  | true =>
      cases a.timerOk with
      | false => exact ledger.unlinked_node
      | true =>
          have linked := ledger.link ⟨w.issued + 1, w.client.mCurReqId + 1, a.reqType, a.cb, a.now,
            a.timeout, some (w.issued + 1)⟩ (Nat.lt_succ_self _) rfl (w.client.mCurReqId + 1)
          refine .quiet linked (Nat.le_succ _) ?_ rfl
          intro node member
          cases List.mem_cons.mp member with
          | inl new => exact Or.inr (new ▸ Nat.lt_succ_self _)
          | inr old => exact Or.inl old

theorem sendAll_turnover {w : ClientWorld κ} (ledger : Ledger w) (sends : List (SendArgs κ)) :
    Turnover w (sendAll w sends).1 (sendAll w sends).2 := by
  induction sends generalizing w with
  | nil => exact .refl ledger
  | cons a sends ih =>
      have first := sendRequest_turnover ledger a
      exact first.trans (ih first.ledger)

theorem Ledger.unlink {w : ClientWorld κ} (ledger : Ledger w) (node : Nat) :
    Ledger
      { w with
        client := { w.client with
          mRequestList := w.client.mRequestList.filter (·.node ≠ node) }
        nodes := w.nodes.erase node
        timers := w.timers.filter (·.1 ≠ node) } := by
  have kept : (w.client.mRequestList.filter (·.node ≠ node)).Sublist w.client.mRequestList :=
    List.filter_sublist
  constructor
  · have distinct : w.nodes.Nodup := by
      rw [ledger.nodes]
      exact ledger.nodup
    dsimp only
    rw [distinct.erase_eq_filter, ledger.nodes, List.filter_map]
    congr 2
    funext r
    by_cases same : r.node = node <;> simp [same]
  · dsimp only
    rw [ledger.timers, List.filter_map]
    rfl
  · intro r member
    exact ledger.timer r (kept.subset member)
  · exact (kept.map MsgRequest.node).nodup ledger.nodup
  · intro r member
    exact ledger.issued r (kept.subset member)

theorem retire_turnover {w : ClientWorld κ} (ledger : Ledger w) {req : MsgRequest κ}
    (linked : req ∈ w.client.mRequestList) :
    Turnover w (retire w req).1 (retire w req).2 := by
  have allocated : req.node ∈ w.nodes := by
    rw [ledger.nodes]
    exact List.mem_map_of_mem linked
  have distinct : w.nodes.Nodup := by
    rw [ledger.nodes]
    exact ledger.nodup
  rw [retire, destroyReqNode]
  dsimp only [listDel]
  rw [ledger.timer req linked]
  refine ⟨ledger.unlink req.node, Nat.le_refl _, ?_, ?_, ?_, List.nodup_singleton _⟩
  · intro node member
    exact Or.inl (List.mem_of_mem_erase member)
  · intro node member
    rw [List.mem_singleton.mp member]
    exact Or.inl allocated
  · intro node member
    rw [List.mem_singleton.mp member]
    exact ⟨ledger.node_le _ allocated, distinct.not_mem_erase⟩

theorem invoke_turnover {w : ClientWorld κ} (ledger : Ledger w) (req : MsgRequest κ)
    (args : Option CbArgs) (cause : Cause) (during : List (SendArgs κ)) :
    Turnover w (invoke w req args cause during).1 (invoke w req args cause during).2 := by
  rw [invoke.eq_def]
  cases req.cb with
  | none => exact .refl ledger
  | some cb =>
      cases args with
      | none => exact .refl ledger
      | some args =>
          have called : Turnover w w [.called ⟨req.node, cb, args.1, args.2, cause⟩] :=
            .quiet ledger (Nat.le_refl _) (fun _ member => Or.inl member) rfl
          exact called.trans (sendAll_turnover ledger during)

theorem invoke_linked {w : ClientWorld κ} {req : MsgRequest κ} (args : Option CbArgs)
    (cause : Cause) (during : List (SendArgs κ)) (linked : req ∈ w.client.mRequestList) :
    req ∈ (invoke w req args cause during).1.client.mRequestList := by
  rw [invoke.eq_def]
  split
  · rcases (sendAll_grown w during).1.linked with ⟨new, list, _, _⟩
    dsimp only
    rw [list]
    exact List.mem_append_right new linked
  · exact linked

theorem invoke_retire_turnover {w : ClientWorld κ} (ledger : Ledger w) {req : MsgRequest κ}
    (args : Option CbArgs) (cause : Cause) (during : List (SendArgs κ))
    (linked : req ∈ w.client.mRequestList) :
    Turnover w (retire (invoke w req args cause during).1 req).1
      ((invoke w req args cause during).2 ++
        (retire (invoke w req args cause during).1 req).2) := by
  have called := invoke_turnover ledger req args cause during
  exact called.trans (retire_turnover called.ledger (invoke_linked args cause during linked))

theorem parseClientData_turnover (codec : Codec) {w : ClientWorld κ} (ledger : Ledger w)
    (reqId : UInt32) (data : List UInt8) (during : List (SendArgs κ)) :
    Turnover w (parseClientData codec w reqId data during).2.1
      (parseClientData codec w reqId data during).2.2 := by
  rw [parseClientData]
  split
  · exact .refl ledger
  split
  · exact .refl ledger
  dsimp only
  split
  · exact .refl ledger
  · rename_i pos found
    exact invoke_retire_turnover ledger _ _ during (List.mem_of_find?_eq_some found)

/-- Every live timer is that of a linked request. -/
theorem Ledger.timer_owned {w : ClientWorld κ} (ledger : Ledger w) :
    ∀ t ∈ w.timers, ∃ r ∈ w.client.mRequestList, r.node = t.2 := by
  intro t member
  rw [ledger.timers] at member
  rcases List.mem_map.mp member with ⟨r, linked, rfl⟩
  exact ⟨r, linked, rfl⟩

theorem msgClientReqTimerCb_turnover {w : ClientWorld κ} (ledger : Ledger w) (data : Nat)
    (during : List (SendArgs κ)) :
    Turnover w (msgClientReqTimerCb w data during).1 (msgClientReqTimerCb w data during).2 := by
  rw [msgClientReqTimerCb]
  split
  · exact .refl ledger
  · rename_i req found
    exact invoke_retire_turnover ledger _ _ during (List.mem_of_find?_eq_some found)

theorem destroyAll_turnover {w : ClientWorld κ} (ledger : Ledger w) {reqs : List (MsgRequest κ)}
    (linked : reqs ⊆ w.client.mRequestList) (distinct : (reqs.map MsgRequest.node).Nodup) :
    Turnover w (destroyAll w reqs).1 (destroyAll w reqs).2 ∧
      (destroyAll w reqs).1.client.mRequestList =
        w.client.mRequestList.filter fun r => r.node ∉ reqs.map MsgRequest.node := by
  induction reqs generalizing w with
  | nil =>
      refine ⟨.refl ledger, ?_⟩
      rw [destroyAll]
      simp
  | cons pos next ih =>
      rw [List.map_cons, List.nodup_cons] at distinct
      have first := retire_turnover ledger (linked List.mem_cons_self)
      have unlinked := (retire_shrunk w pos).1
      have still : next ⊆ (retire w pos).1.client.mRequestList := by
        intro r member
        have other : r.node ≠ pos.node := by
          intro same
          exact distinct.1 (same ▸ List.mem_map_of_mem member)
        rw [unlinked, List.mem_filter]
        exact ⟨linked (List.mem_cons_of_mem pos member), decide_eq_true other⟩
      rcases ih first.ledger still distinct.2 with ⟨rest, left⟩
      refine ⟨first.trans rest, ?_⟩
      calc
        (destroyAll w (pos :: next)).1.client.mRequestList
          = (destroyAll (retire w pos).1 next).1.client.mRequestList := rfl
        _ = (retire w pos).1.client.mRequestList.filter
              (fun r => r.node ∉ next.map MsgRequest.node) := left
        _ = w.client.mRequestList.filter
              (fun r => r.node ∉ (pos :: next).map MsgRequest.node) := by
          rw [unlinked, List.filter_filter]
          apply List.filter_congr
          intro r _
          rw [Bool.eq_iff_iff]
          simp only [Bool.and_eq_true, decide_eq_true_eq, List.map_cons, List.mem_cons, not_or]
          exact and_comm

theorem destroy_turnover {w : ClientWorld κ} (ledger : Ledger w) :
    Turnover w (destroy w).1 (destroy w).2 ∧ (destroy w).1.client.mRequestList = [] := by
  rcases destroyAll_turnover ledger (List.Subset.refl _) ledger.nodup with ⟨turned, left⟩
  refine ⟨⟨⟨turned.ledger.nodes, turned.ledger.timers, turned.ledger.timer, turned.ledger.nodup,
    turned.ledger.issued⟩, turned.issued, turned.nodes, turned.origin, turned.gone,
    turned.once⟩, ?_⟩
  refine left.trans (List.filter_eq_nil_iff.mpr ?_)
  intro r member
  simpa using ⟨r, member, rfl⟩

theorem step_turnover (codec : Codec) {w : ClientWorld κ} (ledger : Ledger w) (e : Event κ) :
    Turnover w ((machine codec).next w e) ((machine codec).emit w e) := by
  unfold StepMachine.next StepMachine.emit machine step
  dsimp only
  split
  · exact .refl ledger
  cases e with
  | send a => exact sendRequest_turnover ledger a
  | frame reqId data during => exact parseClientData_turnover codec ledger reqId data during
  | expire timer during =>
      dsimp only
      split
      · exact .refl ledger
      · exact msgClientReqTimerCb_turnover ledger _ during
  | destroy => exact (destroy_turnover ledger).1

theorem ledger_start (fd : Int) (uninit : UInt32) : Ledger (start fd uninit : ClientWorld κ) :=
  ⟨rfl, rfl, by simp [start, new], List.nodup_nil, by simp [start, new]⟩

theorem run_turnover (codec : Codec) {w : ClientWorld κ} (ledger : Ledger w)
    (es : List (Event κ)) : Turnover w ((machine codec).run w es) ((machine codec).trace w es) := by
  induction es generalizing w with
  | nil => exact .refl ledger
  | cons e es ih =>
      have first := step_turnover codec ledger e
      exact first.trans (ih first.ledger)

theorem retire_alive (w : ClientWorld κ) (req : MsgRequest κ) :
    (retire w req).1.alive = w.alive := by
  rw [retire, destroyReqNode]
  cases req.timer <;> rfl

theorem alive_next (codec : Codec) {w : ClientWorld κ} (alive : w.alive = true) {e : Event κ}
    (other : e ≠ .destroy) : ((machine codec).next w e).alive = true := by
  have sends : ∀ (w : ClientWorld κ) (a : SendArgs κ), (sendRequest w a).world.alive = w.alive :=
    fun w a => (sendRequest_grown w a).1.alive
  exact (step_keeps ClientWorld.alive sends retire_alive codec w other).trans alive

theorem run_dead (codec : Codec) {w : ClientWorld κ} (dead : w.alive = false)
    (es : List (Event κ)) : (machine codec).run w es = w := by
  induction es with
  | nil => rfl
  | cons e es ih =>
      have same : (machine codec).next w e = w := by
        simp [StepMachine.next, machine, step, dead]
      rw [StepMachine.run_cons, same, ih]

theorem destroyed_next (codec : Codec) {w : ClientWorld κ} (ledger : Ledger w)
    (alive : w.alive = true) :
    ((machine codec).next w .destroy).client.mRequestList = [] ∧
      ((machine codec).next w .destroy).alive = false := by
  have stepped : (machine codec).next w .destroy = (destroy w).1 := by
    simp [StepMachine.next, machine, step, alive]
  rw [stepped]
  exact ⟨(destroy_turnover ledger).2, rfl⟩

theorem run_destroyed (codec : Codec) {w : ClientWorld κ} (ledger : Ledger w)
    (alive : w.alive = true) {es : List (Event κ)} (destroyed : .destroy ∈ es) :
    ((machine codec).run w es).client.mRequestList = [] := by
  induction es generalizing w with
  | nil => cases destroyed
  | cons e es ih =>
      rw [StepMachine.run_cons]
      by_cases now : e = .destroy
      · rw [now]
        rcases destroyed_next codec ledger alive with ⟨empty, dead⟩
        rw [run_dead codec dead, empty]
      · have later := (List.mem_cons.mp destroyed).resolve_left fun same => now same.symm
        exact ih (step_turnover codec ledger e).ledger (alive_next codec alive now) later

/-- Linked nodes and live timers correspond: a linked node is allocated and is the user data of
one live timer, its own, and the user data of a live timer is a linked node. -/
structure OneToOne (w : ClientWorld κ) : Prop where
  distinct : (w.client.mRequestList.map MsgRequest.node).Nodup
  allocated : ∀ r ∈ w.client.mRequestList, r.node ∈ w.nodes
  owns : ∀ r ∈ w.client.mRequestList, ∃ timer, r.timer = some timer ∧
    (timer, r.node) ∈ w.timers ∧ (w.timers.map Prod.snd).count r.node = 1
  owned : ∀ t ∈ w.timers, ∃ r ∈ w.client.mRequestList, r.node = t.2
  linked : ∀ node ∈ w.nodes, ∃ r ∈ w.client.mRequestList, r.node = node

theorem Ledger.oneToOne {w : ClientWorld κ} (ledger : Ledger w) : OneToOne w := by
  have data : w.timers.map Prod.snd = w.client.mRequestList.map MsgRequest.node := by
    rw [ledger.timers, List.map_map]
    rfl
  constructor
  · exact ledger.nodup
  · intro r member
    rw [ledger.nodes]
    exact List.mem_map_of_mem member
  · intro r member
    refine ⟨r.node, ledger.timer r member, ?_, ?_⟩
    · rw [ledger.timers]
      exact List.mem_map.mpr ⟨r, member, rfl⟩
    · rw [data]
      exact List.count_eq_one_of_mem ledger.nodup (List.mem_map_of_mem member)
  · exact ledger.timer_owned
  · intro node member
    rw [ledger.nodes] at member
    exact List.mem_map.mp member

/-- The request stays linked, and the correspondence holds, whatever its callback has sent. -/
def HeldThroughout (w : ClientWorld κ) (req : MsgRequest κ) : Prop :=
  req ∈ w.client.mRequestList ∧ ∀ sends, OneToOne (sendAll w sends).1 ∧
    req ∈ (sendAll w sends).1.client.mRequestList

theorem Ledger.heldThroughout {w : ClientWorld κ} (ledger : Ledger w) {req : MsgRequest κ}
    (linked : req ∈ w.client.mRequestList) : HeldThroughout w req := by
  refine ⟨linked, ?_⟩
  intro sends
  rcases (sendAll_grown w sends).1.linked with ⟨new, list, _, _⟩
  refine ⟨(sendAll_turnover ledger sends).ledger.oneToOne, ?_⟩
  rw [list]
  exact List.mem_append_right new linked

/-- A response that is for some request, and an expiry, is handled on a node that is linked and
allocated until it is freed. -/
def TouchesLive (w : ClientWorld κ) : Event κ → Prop
  | .frame reqId _ _ => ∀ req, w.client.mRequestList.find? (·.reqId = reqId) = some req →
      HeldThroughout w req
  | .expire timer _ => ∀ t, w.timers.find? (·.1 = timer) = some t →
      ∃ req, w.client.mRequestList.find? (·.node = t.2) = some req ∧ HeldThroughout w req
  | _ => True

theorem Ledger.touchesLive {w : ClientWorld κ} (ledger : Ledger w) (e : Event κ) :
    TouchesLive w e := by
  cases e with
  | send a => trivial
  | frame reqId data during =>
      intro req found
      exact ledger.heldThroughout (List.mem_of_find?_eq_some found)
  | expire timer during =>
      intro t live
      rcases ledger.timer_owned t (List.mem_of_find?_eq_some live) with ⟨r, member, own⟩
      have some_node : (w.client.mRequestList.find? (·.node = t.2)).isSome := by
        rw [List.find?_isSome]
        exact ⟨r, member, decide_eq_true own⟩
      rcases Option.isSome_iff_exists.mp some_node with ⟨req, found⟩
      exact ⟨req, found, ledger.heldThroughout (List.mem_of_find?_eq_some found)⟩
  | destroy => trivial

end MsgClient

variable {κ : Type*}

open MsgClient

/-- In every state of a run nodes and timers correspond. Responses and expiries only meet nodes
that are linked, no node is freed twice, and behind the destructor there is none left. -/
theorem request_nodes_one_to_one (codec : Codec) (fd : Int) (uninit : UInt32)
    (es : List (Event κ)) :
    (∀ front back, es = front ++ back → OneToOne ((machine codec).run (start fd uninit) front)) ∧
      (machine codec).AllSteps TouchesLive (start fd uninit) es ∧
      (freedNodes ((machine codec).trace (start fd uninit) es)).Nodup ∧
      (.destroy ∈ es → ((machine codec).run (start fd uninit) es).timers = [] ∧
        ((machine codec).run (start fd uninit) es).nodes = []) := by
  have ledger : ∀ front, Ledger ((machine codec).run (start fd uninit : ClientWorld κ) front) :=
    fun front => (run_turnover codec (ledger_start fd uninit) front).ledger
  refine ⟨?_, ?_, (run_turnover codec (ledger_start fd uninit) es).once, ?_⟩
  · intro front back _
    exact (ledger front).oneToOne
  · rw [StepMachine.allSteps_iff]
    intro front e back _
    exact (ledger front).touchesLive e
  · intro member
    have empty := run_destroyed codec (ledger_start fd uninit) rfl member
    rw [(ledger es).timers, (ledger es).nodes, empty]
    exact ⟨rfl, rfl⟩

end TaskMonitor
