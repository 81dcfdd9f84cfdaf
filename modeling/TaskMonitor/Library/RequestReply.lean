import TaskMonitor.Library.Simulation
import Mathlib.Data.List.Nodup

/-! Requests and replies over two FIFO channels.

A caller numbers its questions and keeps a ticket for each one that it waits for. One server takes
the questions in order, works on a world that others change too, and may put a reply on the
channel back. -/

namespace RequestReply

variable {α β τ σ η : Type*}

structure Exchange (α β τ σ : Type*) where
  issued : ℕ
  pending : List (ℕ × τ)
  questions : List (ℕ × α)
  answers : List (ℕ × β)
  world : σ

structure Service (α β σ η : Type*) where
  serve : η → α → σ → Option β × σ
  settles : β → Bool

inductive Event (α τ σ η : Type*) where
  | ask (q : α) (ticket : Option τ)
  | serve (env : η)
  | receive
  | expire (n : ℕ)
  | others (w : σ)

inductive Out (α β τ σ η : Type*) where
  | asked (n : ℕ) (q : α) (ticket : Option τ)
  | served (n : ℕ) (q : α) (env : η) (before : σ)
  | received (n : ℕ) (b : β) (ticket : Option τ)
  | expired (n : ℕ) (ticket : τ)

namespace Exchange

def start (w : σ) : Exchange α β τ σ := ⟨0, [], [], [], w⟩

def ticketOf (x : Exchange α β τ σ) (n : ℕ) : Option τ :=
  (x.pending.find? (·.1 = n)).map Prod.snd

def settle (x : Exchange α β τ σ) (n : ℕ) : Exchange α β τ σ :=
  { x with pending := x.pending.filter (·.1 ≠ n) }

end Exchange

namespace Service

variable (S : Service α β σ η)

def step (x : Exchange α β τ σ) : Event α τ σ η → Exchange α β τ σ × List (Out α β τ σ η)
  | .ask q ticket =>
      let n := x.issued + 1
      ({ x with
          issued := n
          pending := (ticket.map fun t => (n, t)).toList ++ x.pending
          questions := x.questions ++ [(n, q)] }, [.asked n q ticket])
  | .serve env =>
      match x.questions with
      | [] => (x, [])
      | (n, q) :: later =>
          let (reply, w) := S.serve env q x.world
          ({ x with
              questions := later
              answers := x.answers ++ (reply.map fun b => (n, b)).toList
              world := w }, [.served n q env x.world])
  | .receive =>
      match x.answers with
      | [] => (x, [])
      | (n, b) :: later =>
          let ticket := if S.settles b then x.ticketOf n else none
          let x := { x with answers := later }
          (if ticket.isSome then x.settle n else x, [.received n b ticket])
  | .expire n =>
      match x.ticketOf n with
      | none => (x, [])
      | some ticket => (x.settle n, [.expired n ticket])
  | .others w => ({ x with world := w }, [])

def machine : StepMachine (Exchange α β τ σ) (Event α τ σ η) (Out α β τ σ η) := ⟨S.step⟩

def asked? : Out α β τ σ η → Option (ℕ × α)
  | .asked n q _ => some (n, q)
  | _ => none

def served? : Out α β τ σ η → Option (ℕ × α)
  | .served n q _ _ => some (n, q)
  | _ => none

def replied? : Out α β τ σ η → Option (ℕ × β)
  | .served n q env before => (S.serve env q before).1.map fun b => (n, b)
  | _ => none

def received? : Out α β τ σ η → Option (ℕ × β)
  | .received n b _ => some (n, b)
  | _ => none

theorem step_serve {x : Exchange α β τ σ} {n : ℕ} {q : α} {later : List (ℕ × α)}
    (queue : x.questions = (n, q) :: later) (env : η) :
    S.step x (.serve env) =
      ({ x with
          questions := later
          answers := x.answers ++ ((S.serve env q x.world).1.map fun b => (n, b)).toList
          world := (S.serve env q x.world).2 }, [.served n q env x.world]) := by
  simp only [step, queue]

theorem step_settled {x : Exchange α β τ σ} {n : ℕ} {b : β} {later : List (ℕ × β)} {ticket : τ}
    (queue : x.answers = (n, b) :: later) (settles : S.settles b = true)
    (waits : x.ticketOf n = some ticket) :
    S.step x .receive =
      (Exchange.settle { x with answers := later } n, [.received n b (some ticket)]) := by
  simp only [step, queue, settles, if_true, waits, Option.isSome_some]

theorem step_dropped {x : Exchange α β τ σ} {n : ℕ} {b : β} {later : List (ℕ × β)}
    (queue : x.answers = (n, b) :: later) (unwanted : S.settles b = true → x.ticketOf n = none) :
    S.step x .receive = ({ x with answers := later }, [.received n b none]) := by
  simp only [step, queue]
  split
  · rename_i settles
    simp only [unwanted settles, Option.isSome_none, Bool.false_eq_true, if_false]
  · simp only [Option.isSome_none, Bool.false_eq_true, if_false]

inductive Move (x : Exchange α β τ σ) :
    Event α τ σ η → Exchange α β τ σ → List (Out α β τ σ η) → Prop where
  | idle (e : Event α τ σ η) : Move x e x []
  | asked (q : α) (ticket : Option τ) :
      Move x (.ask q ticket)
        { x with
          issued := x.issued + 1
          pending := (ticket.map fun t => (x.issued + 1, t)).toList ++ x.pending
          questions := x.questions ++ [(x.issued + 1, q)] } [.asked (x.issued + 1) q ticket]
  | served (env : η) (n : ℕ) (q : α) (later : List (ℕ × α))
      (queue : x.questions = (n, q) :: later) :
      Move x (.serve env)
        { x with
          questions := later
          answers := x.answers ++ ((S.serve env q x.world).1.map fun b => (n, b)).toList
          world := (S.serve env q x.world).2 } [.served n q env x.world]
  | dropped (n : ℕ) (b : β) (later : List (ℕ × β)) (queue : x.answers = (n, b) :: later)
      (unwanted : S.settles b = true → x.ticketOf n = none) :
      Move x .receive { x with answers := later } [.received n b none]
  | settled (n : ℕ) (b : β) (later : List (ℕ × β)) (ticket : τ)
      (queue : x.answers = (n, b) :: later) (settles : S.settles b = true)
      (waits : x.ticketOf n = some ticket) :
      Move x .receive (Exchange.settle { x with answers := later } n) [.received n b (some ticket)]
  | expired (n : ℕ) (ticket : τ) (waits : x.ticketOf n = some ticket) :
      Move x (.expire n) (x.settle n) [.expired n ticket]
  | others (w : σ) : Move x (.others w) { x with world := w } []

theorem step_move (x : Exchange α β τ σ) (e : Event α τ σ η) :
    S.Move x e (S.machine.next x e) (S.machine.emit x e) := by
  change S.Move x e (S.step x e).1 (S.step x e).2
  cases e with
  | ask q ticket => exact .asked q ticket
  | serve env =>
      cases queue : x.questions with
      | nil =>
          simp only [step, queue]
          exact .idle _
      | cons question later =>
          rw [S.step_serve queue]
          exact .served env question.1 question.2 later queue
  | receive =>
      cases queue : x.answers with
      | nil =>
          simp only [step, queue]
          exact .idle _
      | cons answer later =>
          by_cases wanted : S.settles answer.2 = true ∧ (x.ticketOf answer.1).isSome
          · rcases Option.isSome_iff_exists.mp wanted.2 with ⟨ticket, waits⟩
            rw [S.step_settled queue wanted.1 waits]
            exact .settled answer.1 answer.2 later ticket queue wanted.1 waits
          · have unwanted : S.settles answer.2 = true → x.ticketOf answer.1 = none := by
              intro settles
              simpa [settles] using wanted
            rw [S.step_dropped queue unwanted]
            exact .dropped answer.1 answer.2 later queue unwanted
  | expire n =>
      dsimp only [step]
      split
      · exact .idle _
      · rename_i ticket waits
        exact .expired n ticket waits
  | others w => exact .others w

theorem questions_channel :
    StepMachine.Channel (S.machine (τ := τ)) Exchange.questions asked? served? where
  step x e := by
    have move := S.step_move x e
    generalize S.machine.next x e = y at move ⊢
    generalize S.machine.emit x e = outs at move ⊢
    cases move with
    | idle => simp
    | asked q ticket => simp [List.filterMap_cons, asked?, served?]
    | served env n q later queue => simp [List.filterMap_cons, queue, asked?, served?]
    | dropped => simp [List.filterMap_cons, asked?, served?]
    | settled => simp [List.filterMap_cons, asked?, served?, Exchange.settle]
    | expired => simp [List.filterMap_cons, asked?, served?, Exchange.settle]
    | others => simp

theorem answers_channel :
    StepMachine.Channel (S.machine (τ := τ)) Exchange.answers S.replied? received? where
  step x e := by
    have move := S.step_move x e
    generalize S.machine.next x e = y at move ⊢
    generalize S.machine.emit x e = outs at move ⊢
    cases move with
    | idle => simp
    | asked => simp [List.filterMap_cons, replied?, received?]
    | served env n q later queue =>
        cases replied : (S.serve env q x.world).1 <;>
          simp [List.filterMap_cons, replied?, received?, replied]
    | dropped n b later queue => simp [List.filterMap_cons, replied?, received?, queue]
    | settled n b later ticket queue =>
        simp [List.filterMap_cons, replied?, received?, queue, Exchange.settle]
    | expired => simp [List.filterMap_cons, replied?, received?, Exchange.settle]
    | others => simp

theorem asked_numbers (x : Exchange α β τ σ) (es : List (Event α τ σ η)) :
    x.issued ≤ (S.machine.run x es).issued ∧
      ((S.machine.trace x es).filterMap asked?).map Prod.fst =
        List.range' (x.issued + 1) ((S.machine.run x es).issued - x.issued) := by
  induction es generalizing x with
  | nil => simp
  | cons e es ih =>
      have step : x.issued ≤ (S.machine.next x e).issued ∧
          ((S.machine.emit x e).filterMap asked?).map Prod.fst =
            List.range' (x.issued + 1) ((S.machine.next x e).issued - x.issued) := by
        have move := S.step_move x e
        generalize S.machine.next x e = y at move ⊢
        generalize S.machine.emit x e = outs at move ⊢
        cases move <;> simp [List.filterMap_cons, asked?, Exchange.settle]
      rcases step with ⟨grows, now⟩
      rcases ih (S.machine.next x e) with ⟨grows', later⟩
      refine ⟨Nat.le_trans grows grows', ?_⟩
      rw [StepMachine.trace_cons, List.filterMap_append, List.map_append, now, later]
      have middle : (S.machine.next x e).issued + 1 =
          x.issued + 1 + ((S.machine.next x e).issued - x.issued) := by omega
      rw [middle, List.range'_append_1]
      congr 1
      rw [StepMachine.run_cons]
      omega

theorem asked_once (w : σ) (es : List (Event α τ σ η)) :
    (((S.machine.trace (Exchange.start w) es).filterMap asked?).map Prod.fst).Nodup := by
  rw [(S.asked_numbers (Exchange.start w) es).2]
  exact List.nodup_range'

structure Ticketed (x : Exchange α β τ σ) (log : List (Out α β τ σ η)) : Prop where
  pending : ∀ n t, (n, t) ∈ x.pending → ∃ q, .asked n q (some t) ∈ log
  settled : ∀ n b t, .received n b (some t) ∈ log → ∃ q, .asked n q (some t) ∈ log

theorem mem_of_ticketOf {x : Exchange α β τ σ} {n : ℕ} {t : τ} (waits : x.ticketOf n = some t) :
    (n, t) ∈ x.pending := by
  rcases Option.map_eq_some_iff.mp waits with ⟨⟨m, t'⟩, found, rfl⟩
  have same : m = n := by simpa using List.find?_some found
  rw [← same]
  exact List.mem_of_find?_eq_some found

theorem ticketed_next {x : Exchange α β τ σ} {log : List (Out α β τ σ η)}
    (ticketed : Ticketed x log) (e : Event α τ σ η) :
    Ticketed (S.machine.next x e) (log ++ S.machine.emit x e) := by
  have earlier {n : ℕ} {t : τ} (waits : (n, t) ∈ x.pending) (outs : List (Out α β τ σ η)) :
      ∃ q, .asked n q (some t) ∈ log ++ outs := by
    rcases ticketed.pending n t waits with ⟨q, member⟩
    exact ⟨q, List.mem_append_left outs member⟩
  have move := S.step_move x e
  generalize S.machine.next x e = y at move ⊢
  generalize S.machine.emit x e = outs at move ⊢
  have kept {n : ℕ} {b : β} {t : τ} (member : .received n b (some t) ∈ log) :
      ∃ q, .asked n q (some t) ∈ log ++ outs := by
    rcases ticketed.settled n b t member with ⟨q, member⟩
    exact ⟨q, List.mem_append_left outs member⟩
  -- a ticket that settles a wait was pending, and what is pending was asked before
  cases move with
  | idle => simpa using ticketed
  | asked q ticket =>
      constructor
      · intro n t member
        rcases List.mem_append.mp member with new | old
        · simp only [Option.mem_toList, Option.map_eq_some_iff, Prod.mk.injEq] at new
          rcases new with ⟨t', given, rfl, rfl⟩
          exact ⟨q, List.mem_append_right log (by simp [given])⟩
        · exact earlier old _
      · intro n b t member
        exact kept (by simpa using member)
  | served env n q later queue =>
      exact ⟨fun n t member => earlier member _, fun n b t member => kept (by simpa using member)⟩
  | dropped n b later queue unwanted =>
      exact ⟨fun n t member => earlier member _, fun n b t member => kept (by simpa using member)⟩
  | settled n b later ticket queue settles waits =>
      constructor
      · intro m t member
        exact earlier (List.mem_of_mem_filter member) _
      · intro m b' t member
        rcases List.mem_append.mp member with old | new
        · exact kept old
        · simp only [List.mem_singleton, Out.received.injEq, Option.some.injEq] at new
          rcases new with ⟨rfl, rfl, rfl⟩
          exact earlier (mem_of_ticketOf waits) _
  | expired n ticket waits =>
      exact ⟨fun n t member => earlier (List.mem_of_mem_filter member) _,
        fun n b t member => kept (by simpa using member)⟩
  | others w =>
      rw [List.append_nil]
      exact ⟨ticketed.pending, ticketed.settled⟩

theorem ticketed_run (w : σ) (es : List (Event α τ σ η)) :
    Ticketed (S.machine.run (Exchange.start w) es) (S.machine.trace (Exchange.start w) es) := by
  have held := S.machine.recording.run_invariant_all (fun x => Ticketed x.1 x.2)
    (fun x e ticketed => S.ticketed_next ticketed e) (s := (Exchange.start w, [])) es
    ⟨nofun, nofun⟩
  rwa [S.machine.recording_run, List.nil_append] at held

/-- A reply that ends a wait is what the server made of the question that was asked with the
ticket. -/
theorem answer_origin {w : σ} {es : List (Event α τ σ η)} {n : ℕ} {b : β} {t : τ}
    (received : .received n b (some t) ∈ S.machine.trace (Exchange.start w) es) :
    ∃ q env before, .asked n q (some t) ∈ S.machine.trace (Exchange.start w) es ∧
      .served n q env before ∈ S.machine.trace (Exchange.start w) es ∧
      (S.serve env q before).1 = some b := by
  have replies := (S.answers_channel.leaves_prefix (x := Exchange.start w) rfl es).subset
  have questions := (S.questions_channel.leaves_prefix (x := Exchange.start w) rfl es).subset
  rcases (S.ticketed_run w es).settled n b t received with ⟨q, asked⟩
  have replied := replies (List.mem_filterMap.mpr ⟨_, received, rfl⟩)
  rcases List.mem_filterMap.mp replied with ⟨out, served, gave⟩
  cases out with
  | served m q' env before =>
      rcases Option.map_eq_some_iff.mp gave with ⟨b', made, same⟩
      obtain ⟨rfl, rfl⟩ := Prod.mk.inj same
      have member : (m, q') ∈ (S.machine.trace (Exchange.start w) es).filterMap asked? :=
        questions (List.mem_filterMap.mpr ⟨_, served, rfl⟩)
      have member' : (m, q) ∈ (S.machine.trace (Exchange.start w) es).filterMap asked? :=
        List.mem_filterMap.mpr ⟨_, asked, rfl⟩
      have same := List.inj_on_of_nodup_map (S.asked_once w es) member member' rfl
      obtain rfl := (Prod.mk.inj same).2
      exact ⟨q', env, before, asked, served, made⟩
  | asked => cases gave
  | received => cases gave
  | expired => cases gave

def waiting (x : Exchange α β τ σ) : Set ℕ := { n | ∃ t, (n, t) ∈ x.pending }

def Grants (fits : ℕ → α → Option τ → Prop) (x : Exchange α β τ σ) : Event α τ σ η → Prop
  | .ask q ticket => fits (x.issued + 1) q ticket
  | _ => True

theorem asked_fits {fits : ℕ → α → Option τ → Prop} {x : Exchange α β τ σ}
    {es : List (Event α τ σ η)} (grants : S.machine.AllSteps (Grants fits) x es) {n : ℕ} {q : α}
    {ticket : Option τ} (asked : .asked n q ticket ∈ S.machine.trace x es) : fits n q ticket := by
  have emits : ∀ x e, True → Grants fits x e → ∀ o ∈ S.machine.emit x e,
      ∀ n q ticket, o = .asked n q ticket → fits n q ticket := by
    intro x e _ grants o member m q' ticket' same
    subst same
    have move := S.step_move x e
    generalize S.machine.next x e = y at move
    generalize S.machine.emit x e = outs at move member
    cases move with
    | asked q'' ticket'' =>
        simp only [List.mem_singleton, Out.asked.injEq] at member
        rcases member with ⟨rfl, rfl, rfl⟩
        exact grants
    | _ => simp at member
  exact S.machine.trace_forall (fun _ => True) (fun _ _ _ _ => trivial) emits trivial grants _ asked
    n q ticket rfl

/-- Only good questions are asked, and each good one gets a reply that ends the wait for it. -/
def Answers (good : α → Prop) (x : Exchange α β τ σ) : Event α τ σ η → Prop
  | .ask q _ => good q
  | .serve env => ∀ n q later, x.questions = (n, q) :: later → good q →
      ∃ b, (S.serve env q x.world).1 = some b ∧ S.settles b = true
  | _ => True

/-- What is waited for is under way: the question, or the reply. -/
structure UnderWay (good : α → Prop) (x : Exchange α β τ σ) : Prop where
  waits : ∀ n ∈ waiting x, n ∈ x.questions.map Prod.fst ∨ n ∈ x.answers.map Prod.fst
  asks : ∀ m ∈ x.questions, good m.2
  settles : ∀ m ∈ x.answers, S.settles m.2 = true

variable {good : α → Prop}

theorem UnderWay.asked {x : Exchange α β τ σ} (underWay : S.UnderWay good x) {q : α} (fine : good q)
    (ticket : Option τ) :
    S.UnderWay good
      { x with
        issued := x.issued + 1
        pending := (ticket.map fun t => (x.issued + 1, t)).toList ++ x.pending
        questions := x.questions ++ [(x.issued + 1, q)] } := by
  refine ⟨?_, ?_, underWay.settles⟩
  · rintro n ⟨t, inside⟩
    rcases List.mem_append.mp inside with new | old
    · have same : n = x.issued + 1 := by
        simp only [Option.mem_toList, Option.map_eq_some_iff, Prod.mk.injEq] at new
        rcases new with ⟨_, _, number, _⟩
        exact number.symm
      exact .inl (by simp [same])
    · cases underWay.waits n ⟨t, old⟩ with
      | inl question => exact .inl (by simp [List.map_append, question])
      | inr answer => exact .inr answer
  · intro m member
    cases List.mem_append.mp member with
    | inl old => exact underWay.asks m old
    | inr new =>
        obtain rfl := List.mem_singleton.mp new
        exact fine

theorem UnderWay.served {x : Exchange α β τ σ} (underWay : S.UnderWay good x) {n : ℕ} {q : α}
    {later : List (ℕ × α)} (queue : x.questions = (n, q) :: later) {b : β}
    (ends : S.settles b = true) (w : σ) :
    S.UnderWay good
      { x with questions := later, answers := x.answers ++ [(n, b)], world := w } := by
  rcases underWay with ⟨waits, asks, settles⟩
  rw [queue] at asks
  refine ⟨?_, fun m member => asks m (List.mem_cons_of_mem _ member), ?_⟩
  · intro m member
    cases waits m member with
    | inl question =>
        rw [queue] at question
        cases List.mem_cons.mp question with
        | inl first => exact .inr (by simp [first])
        | inr behind => exact .inl behind
    | inr answer => exact .inr (by simp [answer])
  · intro m member
    cases List.mem_append.mp member with
    | inl old => exact settles m old
    | inr new =>
        obtain rfl := List.mem_singleton.mp new
        exact ends

theorem UnderWay.received {x : Exchange α β τ σ} (underWay : S.UnderWay good x) {n : ℕ} {b : β}
    {later : List (ℕ × β)} (queue : x.answers = (n, b) :: later) {pending : List (ℕ × τ)}
    (fewer : pending ⊆ x.pending) (ended : ∀ t, (n, t) ∉ pending) :
    S.UnderWay good { x with answers := later, pending := pending } := by
  rcases underWay with ⟨waits, asks, settles⟩
  rw [queue] at settles
  refine ⟨?_, asks, fun m member => settles m (List.mem_cons_of_mem _ member)⟩
  rintro m ⟨t, inside⟩
  have other : m ≠ n := by
    rintro rfl
    exact ended t inside
  cases waits m ⟨t, fewer inside⟩ with
  | inl question => exact .inl question
  | inr answer =>
      rw [queue] at answer
      exact .inr ((List.mem_cons.mp answer).resolve_left other)

theorem not_pending_of_ticketOf {x : Exchange α β τ σ} {n : ℕ} (missed : x.ticketOf n = none)
    (t : τ) : (n, t) ∉ x.pending := by
  intro inside
  simp only [Exchange.ticketOf, Option.map_eq_none_iff, List.find?_eq_none] at missed
  simpa using missed (n, t) inside

theorem not_pending_settle (x : Exchange α β τ σ) (n : ℕ) (t : τ) :
    (n, t) ∉ (x.settle n).pending := by
  simp [Exchange.settle]

theorem underWay_next {x : Exchange α β τ σ} {e : Event α τ σ η} (underWay : S.UnderWay good x)
    (answers : S.Answers good x e) : S.UnderWay good (S.machine.next x e) := by
  have move := S.step_move x e
  generalize S.machine.next x e = y at move ⊢
  generalize S.machine.emit x e = outs at move
  cases move with
  | idle => exact underWay
  | asked q ticket => exact underWay.asked S answers ticket
  | served env n q later queue =>
      have fine : good q := underWay.asks (n, q) (by simp [queue])
      rcases answers n q later queue fine with ⟨b, replied, ends⟩
      rw [replied]
      exact underWay.served S queue ends _
  | dropped n b later queue unwanted =>
      have ends : S.settles b = true := underWay.settles (n, b) (by simp [queue])
      exact underWay.received S queue (List.Subset.refl _) (not_pending_of_ticketOf (unwanted ends))
  | settled n b later ticket queue ends wanted =>
      exact underWay.received S queue (List.filter_subset_self _)
        (not_pending_settle { x with answers := later } n)
  | expired n ticket wanted =>
      refine ⟨?_, underWay.asks, underWay.settles⟩
      rintro m ⟨t, inside⟩
      exact underWay.waits m ⟨t, List.mem_of_mem_filter inside⟩
  | others w => exact ⟨underWay.waits, underWay.asks, underWay.settles⟩

theorem underWay_start (good : α → Prop) (w : σ) :
    S.UnderWay good (Exchange.start w : Exchange α β τ σ) :=
  ⟨fun _ ⟨_, none_waits⟩ => (nomatch none_waits), nofun, nofun⟩

/-- Where every good question gets a reply that ends the wait, nothing is waited for in vain. -/
theorem underWay_run {x : Exchange α β τ σ} {es : List (Event α τ σ η)}
    (underWay : S.UnderWay good x) (answers : S.machine.AllSteps (S.Answers good) x es) :
    S.UnderWay good (S.machine.run x es) :=
  S.machine.run_invariant (S.UnderWay good)
    (fun _ _ held answers => S.underWay_next held answers) underWay answers

end Service

end RequestReply
