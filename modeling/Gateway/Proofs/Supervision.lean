import Mathlib
import Gateway.Scenario.Supervisor
/-!
The task table of the supervisor, over any sequence of registrations, late attachments and
start-ups. A registration checks the descriptor before it looks for a free slot and appends one
task, whose index is its slot for ever. A launch asks the launcher once and leaves the task
running or faulted. `startAll` asks for the tasks that are not running, in index order, and stops
at the first launch that fails (`startAll_outcome`).

To see which launches are asked for, the launcher is wrapped in `Logged`, which passes every
launch on and keeps a journal of them with their answers.

Main statement (`supervisor_runs_keep_contract`): from a new supervisor, with the launcher
starting or failing each task as it pleases, every table reached keeps `Contract`. A start-up
does not go past a failure, so a task whose attachment failed waits behind any earlier task that
fails again (`failed_attach_waits_behind_earlier_failure`).
-/
namespace Gateway.Supervisor

def TaskDescriptor.Valid (d : TaskDescriptor) : Prop :=
  d.name ≠ "" ∧ d.name.utf8ByteSize ≤ maxNameLength ∧ minStackSize ≤ d.stackSize

instance (d : TaskDescriptor) : Decidable d.Valid := inferInstanceAs (Decidable (_ ∧ _ ∧ _))

theorem TaskDescriptor.validate_eq (d : TaskDescriptor) :
    d.validate = if d.Valid then .ok () else .error .invalidArgument := by
  unfold validate Valid
  by_cases named : d.name = "" <;> by_cases short : d.name.utf8ByteSize ≤ maxNameLength <;>
    by_cases stacked : minStackSize ≤ d.stackSize <;> simp [String.isEmpty_iff, named, short, stacked]

def Task.isRunning (t : Task) : Bool := decide (t.state = .running)

def Task.withState (t : Task) (st : TaskState) : Task := { t with state := st }

@[simp] theorem Task.descriptor_withState (t : Task) (st : TaskState) :
    (t.withState st).descriptor = t.descriptor := rfl

theorem Task.withState_running {t : Task} (running : t.isRunning = true) : t.withState .running = t := by
  simp only [Task.isRunning, decide_eq_true_eq] at running
  rw [← running]
  rfl

theorem running_split_perm (ts : List Task) :
    ((ts.filter (·.isRunning)).map (·.descriptor) ++ (ts.filter (!·.isRunning)).map (·.descriptor)).Perm
      (ts.map (·.descriptor)) := by
  rw [← List.map_append]
  exact (List.filter_append_perm _ ts).map _

theorem started_perm_after_launch {started : List TaskDescriptor} (mid post : List Task)
    (once : started.Perm (((mid ++ post).filter (·.isRunning)).map (·.descriptor))) :
    (started ++ (mid.filter (!·.isRunning)).map (·.descriptor)).Perm
      (mid.map (·.descriptor) ++ (post.filter (·.isRunning)).map (·.descriptor)) := by
  rw [List.filter_append, List.map_append] at once
  have regrouped := once.append_right ((mid.filter (!·.isRunning)).map (·.descriptor))
  rw [List.append_assoc] at regrouped
  refine regrouped.trans ((List.perm_append_comm.append_left _).trans ?_)
  rw [← List.append_assoc]
  exact (running_split_perm mid).append_right _

theorem running_all (ts : List Task) :
    (ts.map (·.withState .running)).filter (·.isRunning) = ts.map (·.withState .running) :=
  List.filter_eq_self.mpr (by simp [Task.isRunning, Task.withState])

private theorem modify_at_length {α : Type} (pre rest : List α) (t : α) (f : α → α) :
    (pre ++ t :: rest).modify pre.length f = pre ++ f t :: rest := by
  rw [List.modify_eq_take_drop, List.take_left, List.drop_left]
  rfl

/-- A launcher that passes every launch on and keeps a journal of them: each descriptor it was
asked to start, with whether it started. -/
structure Logged (π : Type) where
  launcher : π
  calls : List (TaskDescriptor × Bool)

instance {π : Type} [Launcher π] : Launcher (Logged π) where
  launch l d := (⟨(Launcher.launch l.launcher d).1, l.calls ++ [(d, (Launcher.launch l.launcher d).2)]⟩,
    (Launcher.launch l.launcher d).2)
  headroom l d := Launcher.headroom l.launcher d

variable {π : Type}

def Logged.started (l : Logged π) : List TaskDescriptor := (l.calls.filter (·.2)).map (·.1)

theorem Logged.started_of_calls {l l' : Logged π} {ts : List Task} {rest : List (TaskDescriptor × Bool)}
    (calls : l'.calls = l.calls ++ ts.map (fun t => (t.descriptor, true)) ++ rest) :
    l'.started = l.started ++ ts.map (·.descriptor) ++ (rest.filter (·.2)).map (·.1) := by
  simp [Logged.started, calls, List.filter_append, List.filter_map, Function.comp_def]

/-- How a start-up from index `pre.length` on may end, for a table `pre ++ rest` whose journal
is `calls`: with every task of `rest` running, those that were not launched once each, in
order; or stopped at the first launch that failed, the tasks of `rest` before it running, it
faulted and the ones after it as they were. -/
def StartOutcome (calls : List (TaskDescriptor × Bool)) (pre rest : List Task)
    (r : Except SupervisorError Unit × Supervisor (Logged π)) : Prop :=
  (r.1 = .ok () ∧ r.2.tasks = pre ++ rest.map (·.withState .running) ∧
      r.2.launcher.calls = calls ++ (rest.filter (!·.isRunning)).map fun t => (t.descriptor, true)) ∨
    ∃ mid t post, rest = mid ++ t :: post ∧ t.isRunning = false ∧
      r.1 = .error (.launchFailed (pre.length + mid.length)) ∧
      r.2.tasks = pre ++ mid.map (·.withState .running) ++ t.withState .faulted :: post ∧
      r.2.launcher.calls =
        calls ++ (mid.filter (!·.isRunning)).map (fun t => (t.descriptor, true)) ++ [(t.descriptor, false)]

theorem StartOutcome.cons {calls : List (TaskDescriptor × Bool)} {pre rest : List Task} {t : Task}
    {r : Except SupervisorError Unit × Supervisor (Logged π)}
    (later : StartOutcome (calls ++ if t.isRunning then [] else [(t.descriptor, true)])
      (pre ++ [t.withState .running]) rest r) :
    StartOutcome calls pre (t :: rest) r := by
  rcases later with ⟨ok, tasks, logged⟩ | ⟨mid, t', post, rfl, stopped, failed, tasks, logged⟩
  · refine .inl ⟨ok, by simp [tasks], ?_⟩
    rw [logged]
    cases running : t.isRunning <;> simp [running]
  · have index : (pre ++ [t.withState .running]).length + mid.length = pre.length + (t :: mid).length := by
      simp only [List.length_append, List.length_cons, List.length_nil]
      omega
    refine .inr ⟨t :: mid, t', post, rfl, stopped, by rw [failed, index], by simp [tasks], ?_⟩
    rw [logged]
    cases running : t.isRunning <;> simp [running]

section Launching

variable [Launcher π]

theorem launchAt_split {sv : Supervisor (Logged π)} {pre rest : List Task} {t : Task}
    (split : sv.tasks = pre ++ t :: rest) :
    ∃ ok : Bool, sv.launchAt pre.length =
      (if ok then .ok () else .error (.launchFailed pre.length),
        { sv with
          launcher := { launcher := (Launcher.launch sv.launcher.launcher t.descriptor).1,
                        calls := sv.launcher.calls ++ [(t.descriptor, ok)] }
          tasks := pre ++ t.withState (if ok then .running else .faulted) :: rest }) := by
  have at_i : sv.tasks[pre.length]? = some t := by simp [split]
  refine ⟨(Launcher.launch sv.launcher.launcher t.descriptor).2, ?_⟩
  unfold launchAt setState
  rw [at_i]
  simp only [Launcher.launch, split, modify_at_length]
  cases (Launcher.launch sv.launcher.launcher t.descriptor).2 <;> rfl

theorem launchAt_capacity (sv : Supervisor π) (i : Nat) : (sv.launchAt i).2.capacity = sv.capacity := by
  unfold launchAt
  split
  · rfl
  · dsimp only
    split <;> rfl

theorem startFrom_capacity (sv : Supervisor π) (i n : Nat) : (sv.startFrom i n).2.capacity = sv.capacity := by
  induction n generalizing sv i with
  | zero => rfl
  | succ n ih =>
    unfold startFrom
    split
    · rfl
    · split
      · exact ih sv (i + 1)
      · split
        · next sv' launched => rw [ih, ← launchAt_capacity sv i, launched]
        · next e sv' launched => rw [← launchAt_capacity sv i, launched]

theorem startFrom_outcome {sv : Supervisor (Logged π)} {pre rest : List Task} {n : Nat}
    (split : sv.tasks = pre ++ rest) (fuel : rest.length ≤ n) :
    StartOutcome sv.launcher.calls pre rest (sv.startFrom pre.length n) := by
  induction rest generalizing sv pre n with
  | nil =>
    have past : sv.tasks[pre.length]? = none := by simp [split]
    have done : sv.startFrom pre.length n = (.ok (), sv) := by
      cases n with
      | zero => rfl
      | succ n => simp [startFrom, past]
    exact .inl ⟨by rw [done], by simp [done, split], by simp [done]⟩
  | cons t rest ih =>
    obtain ⟨n, rfl⟩ : ∃ m, n = m + 1 := ⟨n - 1, by simp at fuel; omega⟩
    have at_i : sv.tasks[pre.length]? = some t := by simp [split]
    by_cases running : t.isRunning
    · -- A running task is skipped: the start-up goes on from the next index.
      have skipped : sv.startFrom pre.length (n + 1) = sv.startFrom (pre ++ [t]).length n := by
        simp only [Task.isRunning, decide_eq_true_eq] at running
        simp [startFrom, at_i, running]
      rw [skipped]
      refine StartOutcome.cons ?_
      rw [Task.withState_running running, if_pos running, List.append_nil]
      exact ih (by simp [split]) (by simpa using fuel)
    · obtain ⟨ok, launched⟩ := launchAt_split split
      simp only [Task.isRunning, decide_eq_true_eq] at running
      simp only [startFrom, at_i, running, if_false]
      rw [launched]
      cases ok with
      | true =>
        refine StartOutcome.cons ?_
        have index : pre.length + 1 = (pre ++ [t.withState .running]).length := by simp
        simp only [Task.isRunning, running, decide_false, if_true]
        rw [index]
        exact ih (by simp) (by simpa using fuel)
      | false =>
        exact .inr ⟨[], t, rest, rfl, by simpa [Task.isRunning] using running, by simp, by simp, by simp⟩

/-- `startAll` launches the tasks that are not running, in index order, and stops at the first
that fails. -/
theorem startAll_outcome (sv : Supervisor (Logged π)) :
    sv.startAll.2.capacity = sv.capacity ∧ StartOutcome sv.launcher.calls [] sv.tasks sv.startAll :=
  ⟨startFrom_capacity sv 0 _, startFrom_outcome (List.nil_append _).symm le_rfl⟩

theorem startAll_reaches (sv : Supervisor (Logged π)) {i : Nat} {t : Task} (at_i : sv.tasks[i]? = some t) :
    sv.startAll.2.tasks[i]? = some (t.withState .running) ∨ sv.startAll.1 = .error (.launchFailed i) ∨
      ∃ j < i, sv.startAll.1 = .error (.launchFailed j) ∧ sv.startAll.2.tasks[i]? = some t := by
  rcases (startAll_outcome sv).2 with ⟨-, tasks, -⟩ | ⟨mid, t', post, split, -, failed, tasks, -⟩
  · exact .inl (by simp [tasks, at_i])
  · rw [split] at at_i
    rcases Nat.lt_trichotomy i mid.length with before | here | after
    · -- A task before the failure was launched with success.
      left
      rw [List.getElem?_append_left before] at at_i
      rw [tasks, List.nil_append, List.getElem?_append_left (by simpa using before)]
      simp [at_i]
    · right; left
      simpa [here] using failed
    · right; right
      refine ⟨mid.length, after, by simpa using failed, ?_⟩
      rw [List.getElem?_append_right (by omega)] at at_i
      rw [tasks, List.nil_append, List.getElem?_append_right (by simp; omega)]
      obtain ⟨k, rfl⟩ : ∃ k, i = mid.length + (k + 1) := ⟨i - mid.length - 1, by omega⟩
      simpa using at_i

theorem startAll_ok_iff (sv : Supervisor (Logged π)) :
    sv.startAll.1 = .ok () ↔ ∀ t ∈ sv.startAll.2.tasks, t.state = .running := by
  rcases (startAll_outcome sv).2 with ⟨ok, tasks, -⟩ | ⟨mid, t, post, -, -, failed, tasks, -⟩
  · refine ⟨fun _ => ?_, fun _ => ok⟩
    intro u mem
    rw [tasks] at mem
    obtain ⟨t, -, rfl⟩ := List.mem_map.mp (by simpa using mem)
    rfl
  · rw [failed]
    refine ⟨fun failed => ?_, fun all => ?_⟩
    · cases failed
    have faulted := all (t.withState .faulted) (by simp [tasks])
    cases faulted

omit [Launcher π] in
theorem register_eq (sv : Supervisor π) (d : TaskDescriptor) :
    sv.register d = if ¬ d.Valid then .error .invalidArgument
      else if sv.capacity ≤ sv.tasks.length then .error .full
      else .ok (sv.tasks.length, { sv with tasks := sv.tasks ++ [⟨d, .registered⟩] }) := by
  unfold register
  rw [d.validate_eq]
  by_cases valid : d.Valid <;> simp [valid]

theorem attach_of_refused {sv : Supervisor π} {d : TaskDescriptor} {e : SupervisorError}
    (refused : sv.register d = .error e) : sv.attach d = (.error e, sv) := by
  simp [attach, refused]

theorem attach_of_registered {sv sv₁ : Supervisor (Logged π)} {d : TaskDescriptor} {i : Nat}
    (registered : sv.register d = .ok (i, sv₁)) :
    ∃ ok : Bool, i = sv.tasks.length ∧
      (sv.attach d).1 = (if ok then .ok i else .error (.launchFailed i)) ∧
      (sv.attach d).2.capacity = sv.capacity ∧
      (sv.attach d).2.tasks = sv.tasks ++ [⟨d, if ok then .running else .faulted⟩] ∧
      (sv.attach d).2.launcher.calls = sv.launcher.calls ++ [(d, ok)] := by
  have appended : i = sv.tasks.length ∧ sv₁ = { sv with tasks := sv.tasks ++ [⟨d, .registered⟩] } := by
    rw [register_eq] at registered
    split at registered
    · cases registered
    split at registered
    · cases registered
    exact ⟨(Prod.mk.inj (Except.ok.inj registered)).1.symm, (Prod.mk.inj (Except.ok.inj registered)).2.symm⟩
  obtain ⟨rfl, rfl⟩ := appended
  have split : ({ sv with tasks := sv.tasks ++ [⟨d, .registered⟩] } : Supervisor (Logged π)).tasks =
      sv.tasks ++ [⟨d, .registered⟩] := rfl
  obtain ⟨ok, launched⟩ := launchAt_split split
  refine ⟨ok, rfl, ?_⟩
  simp only [attach, registered, launched]
  cases ok <;> simp [Task.withState]

/-- The tables reached from `sv₀` by registrations, attachments and start-ups, with the
descriptors that took a slot, in order. A refused registration or attachment leaves the table as
it was (`register_eq`, `attach_of_refused`), so it adds no step. -/
inductive Run (sv₀ : Supervisor π) : Supervisor π → List TaskDescriptor → Prop
  | start : Run sv₀ sv₀ []
  | register {sv sv' : Supervisor π} {regs : List TaskDescriptor} {d : TaskDescriptor} {i : Nat} :
      Run sv₀ sv regs → sv.register d = .ok (i, sv') → Run sv₀ sv' (regs ++ [d])
  | attach {sv sv₁ : Supervisor π} {regs : List TaskDescriptor} {d : TaskDescriptor} {i : Nat} :
      Run sv₀ sv regs → sv.register d = .ok (i, sv₁) → Run sv₀ (sv.attach d).2 (regs ++ [d])
  | startAll {sv : Supervisor π} {regs : List TaskDescriptor} :
      Run sv₀ sv regs → Run sv₀ sv.startAll.2 regs

end Launching

/-- A table in order: within capacity, its tasks the descriptors registered, in order, and the
launches that succeeded over the whole journal exactly the running tasks. -/
structure Sound (sv : Supervisor (Logged π)) (regs : List TaskDescriptor) : Prop where
  bounded : sv.tasks.length ≤ sv.capacity
  slots : sv.tasks.map (·.descriptor) = regs
  once : sv.launcher.started.Perm ((sv.tasks.filter (·.isRunning)).map (·.descriptor))

section Sound

variable [Launcher π] {sv sv' sv₁ : Supervisor (Logged π)} {regs : List TaskDescriptor} {d : TaskDescriptor}
  {i : Nat}

omit [Launcher π] in
theorem Sound.register (sound : sv.Sound regs) (registered : sv.register d = .ok (i, sv')) :
    sv'.Sound (regs ++ [d]) := by
  rw [register_eq] at registered
  split at registered
  · cases registered
  split at registered
  · cases registered
  next room =>
  obtain rfl := (Prod.mk.inj (Except.ok.inj registered)).2
  refine ⟨by simp; omega, by simp [sound.slots], ?_⟩
  simpa [Task.isRunning] using sound.once

theorem Sound.attach (sound : sv.Sound regs) (registered : sv.register d = .ok (i, sv₁)) :
    (sv.attach d).2.Sound (regs ++ [d]) := by
  have room : sv.tasks.length < sv.capacity := by
    rw [register_eq] at registered
    split at registered
    · cases registered
    split at registered
    · cases registered
    next full => omega
  obtain ⟨ok, -, -, capacity, tasks, calls⟩ := attach_of_registered registered
  refine ⟨by simp [capacity, tasks]; omega, by simp [tasks, sound.slots], ?_⟩
  rw [Logged.started, calls, tasks]
  cases ok
  · simpa [Task.isRunning, Logged.started] using sound.once
  · simpa [Task.isRunning, Logged.started] using sound.once.append_right [d]

theorem Sound.startAll (sound : sv.Sound regs) : sv.startAll.2.Sound regs := by
  obtain ⟨capacity, outcome⟩ := startAll_outcome sv
  rcases outcome with ⟨-, tasks, calls⟩ | ⟨mid, t, post, split, stopped, -, tasks, calls⟩
  · refine ⟨by simp [capacity, tasks, sound.bounded], by simp [tasks, ← sound.slots, Function.comp_def], ?_⟩
    -- Every task ends running; the launches that succeeded are those before and one for each
    -- task that was not running.
    have gained : sv.startAll.2.launcher.started =
        sv.launcher.started ++ (sv.tasks.filter (!·.isRunning)).map (·.descriptor) := by
      simpa using Logged.started_of_calls (calls.trans (List.append_nil _).symm)
    have ended : (sv.startAll.2.tasks.filter (·.isRunning)).map (·.descriptor) = sv.tasks.map (·.descriptor) := by
      rw [tasks, List.nil_append, running_all]
      simp [Function.comp_def]
    rw [gained, ended]
    simpa using started_perm_after_launch sv.tasks [] (by simpa using sound.once)
  · have within := sound.bounded
    rw [split] at within
    refine ⟨by simp [capacity, tasks] at within ⊢; omega,
      by simp [tasks, ← sound.slots, split, Function.comp_def], ?_⟩
    -- The tasks before the failure end running; the failed one is not running, before or after.
    have gained : sv.startAll.2.launcher.started =
        sv.launcher.started ++ (mid.filter (!·.isRunning)).map (·.descriptor) := by
      simpa using Logged.started_of_calls calls
    have fails : (t.withState .faulted).isRunning = false := by simp [Task.isRunning, Task.withState]
    have ended : (sv.startAll.2.tasks.filter (·.isRunning)).map (·.descriptor) =
        mid.map (·.descriptor) ++ (post.filter (·.isRunning)).map (·.descriptor) := by
      rw [tasks, List.nil_append, List.filter_append, List.filter_cons_of_neg (by simp [fails]), running_all]
      simp [Function.comp_def]
    have before : sv.tasks.filter (·.isRunning) = (mid ++ post).filter (·.isRunning) := by
      rw [split, List.filter_append, List.filter_cons_of_neg (by simp [stopped]), List.filter_append]
    rw [gained, ended]
    exact started_perm_after_launch mid post (before ▸ sound.once)

end Sound

/-- What the supervisor promises of a table it reached, `regs` being the descriptors that took
a slot, in order. -/
structure Contract [Launcher π] (sv : Supervisor (Logged π)) (regs : List TaskDescriptor) : Prop where
  sound : sv.Sound regs
  register : ∀ d, sv.register d = if ¬ d.Valid then .error .invalidArgument
    else if sv.capacity ≤ regs.length then .error .full
    else .ok (regs.length, { sv with tasks := sv.tasks ++ [⟨d, .registered⟩] })
  attach_refused : ∀ d e, sv.register d = .error e → sv.attach d = (.error e, sv)
  attach : ∀ d, d.Valid → regs.length < sv.capacity → ∃ ok : Bool,
    (sv.attach d).1 = (if ok then .ok regs.length else .error (.launchFailed regs.length)) ∧
      (sv.attach d).2.capacity = sv.capacity ∧
      (sv.attach d).2.tasks = sv.tasks ++ [⟨d, if ok then .running else .faulted⟩] ∧
      (sv.attach d).2.launcher.calls = sv.launcher.calls ++ [(d, ok)]
  start : sv.startAll.2.capacity = sv.capacity ∧ StartOutcome sv.launcher.calls [] sv.tasks sv.startAll
  start_ok_iff : sv.startAll.1 = .ok () ↔ ∀ t ∈ sv.startAll.2.tasks, t.state = .running
  retried : ∀ i t, sv.tasks[i]? = some t → t.state = .faulted →
    sv.startAll.2.tasks[i]? = some (t.withState .running) ∨ sv.startAll.1 = .error (.launchFailed i) ∨
      ∃ j < i, sv.startAll.1 = .error (.launchFailed j) ∧ sv.startAll.2.tasks[i]? = some t

/-- From a new supervisor, whatever registrations, attachments and start-ups run, with the
launcher starting or failing each task as it pleases, the supervisor keeps its contract. -/
theorem supervisor_runs_keep_contract [Launcher π] {capacity : Nat} {l : π} {sv : Supervisor (Logged π)}
    {regs : List TaskDescriptor} (run : Run { capacity, launcher := ⟨l, []⟩ } sv regs) : sv.Contract regs := by
  have sound : sv.Sound regs := by
    induction run with
    | start => exact ⟨by simp, rfl, by simp [Logged.started]⟩
    | register _ registered ih => exact ih.register registered
    | attach _ registered ih => exact ih.attach registered
    | startAll _ ih => exact ih.startAll
  have count : sv.tasks.length = regs.length := by simpa using congrArg List.length sound.slots
  refine ⟨sound, fun d => count ▸ register_eq sv d, fun d e => attach_of_refused, ?_, startAll_outcome sv,
    startAll_ok_iff sv, ?_⟩
  · intro d valid room
    have registered := register_eq sv d
    rw [if_neg (not_not.mpr valid), if_neg (by omega)] at registered
    obtain ⟨ok, -, result, capacity, tasks, calls⟩ := attach_of_registered registered
    exact ⟨ok, count ▸ result, capacity, tasks, calls⟩
  · intro i t at_i _
    exact startAll_reaches sv at_i

end Gateway.Supervisor

namespace Gateway.Scenario
open Gateway.Supervisor

def lateBench : Supervisor (Logged Recorder) := { capacity := 4, launcher := ⟨{ failOn := ["a", "b"] }, []⟩ }

def taskA : TaskDescriptor := { name := "a", priority := 4 }

def taskB : TaskDescriptor := { name := "b", priority := 4 }

def lateAttached : Supervisor (Logged Recorder) :=
  ({ lateBench with tasks := [⟨taskA, .registered⟩] }.attach taskB).2

theorem lateAttached_run : Supervisor.Run lateBench lateAttached [taskA, taskB] :=
  .attach (.register .start (show lateBench.register taskA = .ok (0, _) from rfl)) rfl

theorem supervisor_runs_keep_contract_after_failed_attach :
    Supervisor.Run lateBench lateAttached [taskA, taskB] ∧ lateAttached.Contract [taskA, taskB] :=
  ⟨lateAttached_run, Supervisor.supervisor_runs_keep_contract lateAttached_run⟩

/-- A task whose attachment failed is not launched again by the next start-up when an earlier
task fails first: the start-up asks the launcher for `a` only, and `b` stays faulted. -/
theorem failed_attach_waits_behind_earlier_failure :
    Supervisor.Run lateBench lateAttached [taskA, taskB] ∧
      lateAttached.tasks[1]? = some ⟨taskB, .faulted⟩ ∧
      lateAttached.startAll.1 = .error (.launchFailed 0) ∧
      lateAttached.startAll.2.launcher.calls = lateAttached.launcher.calls ++ [(taskA, false)] ∧
      lateAttached.startAll.2.tasks[1]? = some ⟨taskB, .faulted⟩ :=
  ⟨lateAttached_run, rfl, rfl, rfl, rfl⟩

end Gateway.Scenario
