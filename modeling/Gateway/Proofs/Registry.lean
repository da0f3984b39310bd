import Mathlib
import Gateway.Bridge.Table
/-!
Building a topic table at boot. A registration checks, in this order, that the table is not
sealed, that the codec suits the direction, that the suffix is valid in the namespace, that no
route of the same direction has the suffix, and that the table has room; only then it appends
one route, whose handle is its index. A refused registration changes nothing.

Main statement (`table_setup_keeps_routes_sound`): whatever registrations and seals run on a new
table, its routes stay within capacity, each with the codec its direction needs, a suffix the
namespace accepts and no twin (`WellFormed`); the handles handed out are 0, 1, 2, … in order and
each keeps naming its route; refusals are chosen in the order of the checks; and once sealed,
the table refuses every registration.
-/
namespace Gateway.Bridge
open Gateway.Mqtt

variable {α : Type}

theorem Codec.suits_iff (c : Codec α) (dir : Direction) :
    c.suits dir = true ↔
      ((∃ f, c = .encoder f) ↔ dir = .publish) ∧ ((∃ f, c = .decoder f) ↔ dir = .subscribe) := by
  cases c <;> cases dir <;>
    simp only [Codec.suits, Bool.false_eq_true, Codec.encoder.injEq, Codec.decoder.injEq, exists_eq',
      reduceCtorEq, exists_false, iff_true, iff_false, not_true_eq_false, and_self]

theorem Namespace.topic_of_validate {ns : Namespace} {suffix : String}
    (valid : ns.validate suffix = .ok ()) : ns.topic suffix = .ok (ns.pref ++ suffix) := by
  simp [Namespace.topic, valid]

/-- A call that shapes a table before the relay starts. -/
inductive Setup (α : Type) where
  | register (d : TopicDescriptor α)
  | freeze

namespace TopicTable

variable {t t' : TopicTable α} {d : TopicDescriptor α}

def routeOf (t : TopicTable α) (d : TopicDescriptor α) : Topic α :=
  { suffix := d.suffix, direction := d.direction, qos := d.qos, codec := d.codec, queue := { capacity := t.depth } }

def Taken (t : TopicTable α) (d : TopicDescriptor α) : Prop :=
  ∃ r ∈ t.topics, r.direction = d.direction ∧ r.suffix = d.suffix

theorem any_eq_true_iff_taken :
    (t.topics.any fun r => r.direction = d.direction && r.suffix = d.suffix) = true ↔ t.Taken d := by
  simp [Taken]

/-- Why a registration is refused: the first check that fails names the error. -/
inductive Refusal (t : TopicTable α) (d : TopicDescriptor α) : TopicError → Prop
  | sealed : t.sealed = true → Refusal t d .sealed
  | codecMismatch : t.sealed = false → d.codec.suits d.direction = false →
      Refusal t d .codecMismatch
  | invalid {e : TopicError} : t.sealed = false → d.codec.suits d.direction = true →
      t.space.validate d.suffix = .error e → Refusal t d e
  | duplicate : t.sealed = false → d.codec.suits d.direction = true →
      t.space.validate d.suffix = .ok () → t.Taken d → Refusal t d .invalidArgument
  | full : t.sealed = false → d.codec.suits d.direction = true →
      t.space.validate d.suffix = .ok () → ¬ t.Taken d → t.capacity ≤ t.topics.length →
      Refusal t d .full

theorem register_eq_ok_iff {h : Nat} :
    t.register d = .ok (h, t') ↔
      t.sealed = false ∧ d.codec.suits d.direction = true ∧ t.space.validate d.suffix = .ok () ∧
        ¬ t.Taken d ∧ t.topics.length < t.capacity ∧
        h = t.topics.length ∧ t' = { t with topics := t.topics ++ [t.routeOf d] } := by
  unfold register
  cases sealed : t.sealed
  · cases suits : d.codec.suits d.direction
    · simp
    · cases valid : t.space.validate d.suffix with
      | error e => simp
      | ok u =>
        by_cases taken : t.Taken d
        · simp [any_eq_true_iff_taken.mpr taken, taken]
        · by_cases full : t.capacity ≤ t.topics.length
          · simp [mt any_eq_true_iff_taken.mp taken, taken, full]
          · simp only [mt any_eq_true_iff_taken.mp taken, taken, full, routeOf, Bool.false_eq_true,
              Bool.not_true, if_false, not_false_eq_true, true_and, Except.ok.injEq, Prod.mk.injEq]
            constructor
            · rintro ⟨rfl, rfl⟩
              exact ⟨by omega, rfl, rfl⟩
            · rintro ⟨-, rfl, rfl⟩
              exact ⟨rfl, rfl⟩
  · simp

theorem register_eq_error_iff {e : TopicError} : t.register d = .error e ↔ t.Refusal d e := by
  constructor
  · intro refused
    unfold register at refused
    cases sealed : t.sealed
    · cases suits : d.codec.suits d.direction
      · simp only [sealed, suits, Bool.not_false, if_true, Bool.false_eq_true, if_false,
          Except.error.injEq] at refused
        exact refused ▸ .codecMismatch sealed suits
      · cases valid : t.space.validate d.suffix with
        | error e' =>
          simp only [sealed, suits, valid, Bool.not_true, Bool.false_eq_true, if_false,
            Except.error.injEq] at refused
          exact refused ▸ .invalid sealed suits valid
        | ok u =>
          simp only [sealed, suits, valid, Bool.not_true, Bool.false_eq_true, if_false] at refused
          by_cases taken : t.Taken d
          · rw [if_pos (any_eq_true_iff_taken.mpr taken)] at refused
            cases refused
            exact .duplicate sealed suits valid taken
          · rw [if_neg (mt any_eq_true_iff_taken.mp taken)] at refused
            by_cases full : t.capacity ≤ t.topics.length
            · rw [if_pos full] at refused
              cases refused
              exact .full sealed suits valid taken full
            · rw [if_neg full] at refused
              cases refused
    · simp only [sealed, if_true, Except.error.injEq] at refused
      exact refused ▸ .sealed sealed
  · intro refusal
    unfold register
    cases refusal with
    | sealed sealed => simp [sealed]
    | codecMismatch sealed suits => simp [sealed, suits]
    | invalid sealed suits valid => simp [sealed, suits, valid]
    | duplicate sealed suits valid taken => simp [sealed, suits, valid, any_eq_true_iff_taken.mpr taken]
    | full sealed suits valid taken full =>
      simp [sealed, suits, valid, mt any_eq_true_iff_taken.mp taken, full]

theorem register_of_sealed (sealed : t.sealed = true) (d : TopicDescriptor α) :
    t.register d = .error .sealed :=
  register_eq_error_iff.mpr (.sealed sealed)

/-! What registration keeps true of a table. -/

/-- The routes of a table are within its capacity, each with the codec its direction needs and
a suffix the namespace accepts, and no two share both direction and suffix. -/
structure WellFormed (t : TopicTable α) : Prop where
  bounded : t.topics.length ≤ t.capacity
  suited : ∀ r ∈ t.topics, r.codec.suits r.direction = true
  valid : ∀ r ∈ t.topics, t.space.validate r.suffix = .ok ()
  distinct : t.topics.Pairwise fun a b => ¬ (a.direction = b.direction ∧ a.suffix = b.suffix)

theorem WellFormed.of_empty (empty : t.topics = []) : t.WellFormed where
  bounded := by simp [empty]
  suited := by simp [empty]
  valid := by simp [empty]
  distinct := by simp [empty]

theorem WellFormed.register {h : Nat} (wf : t.WellFormed) (added : t.register d = .ok (h, t')) :
    t'.WellFormed := by
  obtain ⟨-, suits, valid, fresh, room, -, rfl⟩ := register_eq_ok_iff.mp added
  -- The new route is the last one, and the checks just passed are its invariants.
  refine ⟨by simp; omega, ?_, ?_, ?_⟩
  · simpa [routeOf, or_imp, forall_and] using And.intro wf.suited suits
  · simpa [routeOf, or_imp, forall_and] using And.intro wf.valid valid
  · refine List.pairwise_append.mpr ⟨wf.distinct, by simp, fun a mem b new => ?_⟩
    rw [List.mem_singleton] at new
    subst new
    exact fun same => fresh ⟨a, mem, same⟩

theorem WellFormed.freeze (wf : t.WellFormed) : t.freeze.WellFormed :=
  ⟨wf.bounded, wf.suited, wf.valid, wf.distinct⟩

/-! A sequence of setup calls. -/

/-- One setup call: the table it leaves and, for a registration, its answer. A refused
registration leaves the table as it was. -/
def perform (t : TopicTable α) : Setup α → TopicTable α × Option (Except TopicError Nat)
  | .register d =>
    match t.register d with
    | .ok (h, t') => (t', some (.ok h))
    | .error e => (t, some (.error e))
  | .freeze => (t.freeze, none)

def setup (t : TopicTable α) : List (Setup α) → TopicTable α × List (Except TopicError Nat)
  | [] => (t, [])
  | c :: cs => (((t.perform c).1.setup cs).1, (t.perform c).2.toList ++ ((t.perform c).1.setup cs).2)

@[simp] theorem setup_nil : t.setup [] = (t, []) := rfl

@[simp] theorem setup_cons (c : Setup α) (cs : List (Setup α)) :
    t.setup (c :: cs) = (((t.perform c).1.setup cs).1,
      (t.perform c).2.toList ++ ((t.perform c).1.setup cs).2) := rfl

theorem setup_append (cs ds : List (Setup α)) :
    t.setup (cs ++ ds) = (((t.setup cs).1.setup ds).1, (t.setup cs).2 ++ ((t.setup cs).1.setup ds).2) := by
  induction cs generalizing t with
  | nil => simp
  | cons c cs ih => simp [ih]

theorem perform_of_ok {h : Nat} (added : t.register d = .ok (h, t')) :
    t.perform (.register d) = (t', some (.ok h)) := by
  simp [perform, added]

theorem perform_of_error {e : TopicError} (refused : t.register d = .error e) :
    t.perform (.register d) = (t, some (.error e)) := by
  simp [perform, refused]

theorem perform_shape (c : Setup α) :
    (t.perform c).1.space = t.space ∧ (t.perform c).1.capacity = t.capacity ∧
      (t.perform c).1.depth = t.depth ∧
      ((∃ r, (t.perform c).1.topics = t.topics ++ [r] ∧ (t.perform c).2 = some (.ok t.topics.length)) ∨
        ((t.perform c).1.topics = t.topics ∧ (t.perform c).2.bind Except.toOption = none)) := by
  cases c with
  | register d =>
    cases added : t.register d with
    | ok result =>
      obtain ⟨h, t'⟩ := result
      obtain ⟨-, -, -, -, -, rfl, rfl⟩ := register_eq_ok_iff.mp added
      rw [perform_of_ok added]
      exact ⟨rfl, rfl, rfl, .inl ⟨_, rfl, rfl⟩⟩
    | error e =>
      rw [perform_of_error added]
      exact ⟨rfl, rfl, rfl, .inr ⟨rfl, rfl⟩⟩
  | freeze => exact ⟨rfl, rfl, rfl, .inr ⟨rfl, rfl⟩⟩

theorem perform_wellFormed (wf : t.WellFormed) (c : Setup α) : (t.perform c).1.WellFormed := by
  cases c with
  | register d =>
    cases added : t.register d with
    | ok result => simpa [perform_of_ok added] using wf.register added
    | error e => simpa [perform_of_error added] using wf
  | freeze => exact wf.freeze

theorem perform_sealed (sealed : t.sealed = true) (c : Setup α) : (t.perform c).1.sealed = true := by
  cases c with
  | register d => simpa [perform_of_error (register_of_sealed sealed d)] using sealed
  | freeze => rfl

/-! Runs of setup calls, each fact carried from one call to the next. -/

theorem setup_shape (cs : List (Setup α)) :
    (t.setup cs).1.space = t.space ∧ (t.setup cs).1.capacity = t.capacity ∧
      (t.setup cs).1.depth = t.depth ∧ t.topics <+: (t.setup cs).1.topics := by
  induction cs generalizing t with
  | nil => exact ⟨rfl, rfl, rfl, List.prefix_refl _⟩
  | cons c cs ih =>
    obtain ⟨space, capacity, depth, grown⟩ := perform_shape (t := t) c
    obtain ⟨space', capacity', depth', grown'⟩ := ih (t := (t.perform c).1)
    refine ⟨space'.trans space, capacity'.trans capacity, depth'.trans depth, ?_⟩
    rcases grown with ⟨r, topics, -⟩ | ⟨topics, -⟩
    · exact (List.prefix_append _ _).trans (topics ▸ grown')
    · exact topics ▸ grown'

theorem setup_handles (cs : List (Setup α)) :
    (t.setup cs).2.filterMap Except.toOption =
      List.range' t.topics.length ((t.setup cs).1.topics.length - t.topics.length) := by
  induction cs generalizing t with
  | nil => simp
  | cons c cs ih =>
    have longer := (setup_shape (t := (t.perform c).1) cs).2.2.2.length_le
    rcases (perform_shape (t := t) c).2.2.2 with ⟨r, topics, answer⟩ | ⟨topics, answer⟩
    · -- The call appended a route: its handle is the old length, and the rest count on from it.
      rw [topics, List.length_append, List.length_singleton] at longer
      simp only [setup_cons, answer, Option.toList_some, List.singleton_append, List.filterMap_cons,
        Except.toOption, ih, topics, List.length_append, List.length_singleton]
      generalize ((t.perform c).1.setup cs).1.topics.length = F at longer ⊢
      obtain ⟨n, count⟩ : ∃ n, F - t.topics.length = n + 1 := ⟨F - t.topics.length - 1, by omega⟩
      rw [count, List.range'_succ]
      congr 2
      omega
    · cases answered : (t.perform c).2 with
      | none => simp [answered, ih, topics]
      | some a => cases a <;> simp_all [Except.toOption, List.filterMap_cons]

theorem setup_wellFormed (wf : t.WellFormed) (cs : List (Setup α)) : (t.setup cs).1.WellFormed := by
  induction cs generalizing t with
  | nil => exact wf
  | cons c cs ih => exact ih (perform_wellFormed wf c)

theorem setup_sealed (sealed : t.sealed = true) (cs : List (Setup α)) :
    (t.setup cs).1.sealed = true := by
  induction cs generalizing t with
  | nil => exact sealed
  | cons c cs ih => exact ih (perform_sealed sealed c)

theorem setup_sealed_of_mem {cs : List (Setup α)} (sealing : Setup.freeze ∈ cs) :
    (t.setup cs).1.sealed = true := by
  obtain ⟨before, after, rfl⟩ := List.append_of_mem sealing
  rw [setup_append, setup_cons]
  exact setup_sealed rfl after

theorem setup_names_route {cs₁ cs₂ : List (Setup α)} {h : Nat}
    (added : (t.setup cs₁).1.register d = .ok (h, t')) :
    (t.setup (cs₁ ++ .register d :: cs₂)).1.topics[h]? = some ((t.setup cs₁).1.routeOf d) := by
  obtain ⟨-, -, -, -, -, handle, rfl⟩ := register_eq_ok_iff.mp added
  obtain ⟨rest, grown⟩ := (setup_shape (t := { (t.setup cs₁).1 with
    topics := (t.setup cs₁).1.topics ++ [(t.setup cs₁).1.routeOf d] }) cs₂).2.2.2
  rw [setup_append, setup_cons, perform_of_ok added]
  simp only at grown ⊢
  rw [← grown, List.append_assoc, List.getElem?_append_right (by omega), handle]
  simp

/-- What a run of setup calls `cs` on the table `t₀` guarantees of the table it leaves and of the
answers it gave. -/
structure SoundSetup (t₀ : TopicTable α) (cs : List (Setup α)) : Prop where
  bounded : (t₀.setup cs).1.topics.length ≤ (t₀.setup cs).1.capacity
  codecs : ∀ r ∈ (t₀.setup cs).1.topics,
    ((∃ f, r.codec = .encoder f) ↔ r.direction = .publish) ∧
      ((∃ f, r.codec = .decoder f) ↔ r.direction = .subscribe)
  topics : ∀ r ∈ (t₀.setup cs).1.topics, (t₀.setup cs).1.space.validate r.suffix = .ok () ∧
    (t₀.setup cs).1.space.topic r.suffix = .ok ((t₀.setup cs).1.space.pref ++ r.suffix)
  distinct : (t₀.setup cs).1.topics.Pairwise fun a b => ¬ (a.direction = b.direction ∧ a.suffix = b.suffix)
  handles : (t₀.setup cs).2.filterMap Except.toOption = List.range (t₀.setup cs).1.topics.length
  named : ∀ cs₁ d cs₂ h t₁, cs = cs₁ ++ .register d :: cs₂ →
    (t₀.setup cs₁).1.register d = .ok (h, t₁) →
      (t₀.setup cs).1.topics[h]? = some ((t₀.setup cs₁).1.routeOf d)
  refusals : ∀ d e, (t₀.setup cs).1.register d = .error e ↔ (t₀.setup cs).1.Refusal d e
  unchanged : ∀ d e, (t₀.setup cs).1.register d = .error e →
    (t₀.setup cs).1.perform (.register d) = ((t₀.setup cs).1, some (.error e))
  sealed : Setup.freeze ∈ cs → ∀ d, (t₀.setup cs).1.register d = .error .sealed

/-- Any registrations and seals on a new table leave it sound: routes within capacity, with the
codec their direction needs, suffixes that make topics and no twins; handles 0, 1, 2, … in
order, each naming its route for good; refusals named by the first failing check and changing
nothing; and no registration once sealed. -/
theorem table_setup_keeps_routes_sound (t₀ : TopicTable α) (fresh : t₀.topics = [])
    (cs : List (Setup α)) : SoundSetup t₀ cs := by
  have wf := setup_wellFormed (WellFormed.of_empty fresh) cs
  have space := (setup_shape (t := t₀) cs).1
  refine ⟨wf.bounded, fun r mem => (Codec.suits_iff _ _).mp (wf.suited r mem),
    fun r mem => ⟨wf.valid r mem, Namespace.topic_of_validate (wf.valid r mem)⟩, wf.distinct, ?_,
    ?_, fun d e => register_eq_error_iff, fun d e refused => perform_of_error refused,
    fun sealing d => register_of_sealed (setup_sealed_of_mem sealing) d⟩
  · simpa [fresh, List.range_eq_range'] using setup_handles (t := t₀) cs
  · rintro cs₁ d cs₂ h t₁ rfl added
    exact setup_names_route added

def sensorTable : TopicTable Nat :=
  { space := ⟨"/titanium/A1B2C3D4E5F6/"⟩, capacity := 2, depth := 4, ioTimeout := 100000 }

/-- A subscribe route and a publish route of one suffix, a third route that finds the table
full, a seal, and a registration after it. -/
def sensorSetup : List (Setup Nat) :=
  [.register ⟨"config", .subscribe, .atLeastOnce, .decoder fun bs => .ok bs.length⟩,
   .register ⟨"config", .publish, .atMostOnce, .encoder fun n _ => .ok (toString n)⟩,
   .register ⟨"sensor", .publish, .atMostOnce, .encoder fun n _ => .ok (toString n)⟩,
   .freeze,
   .register ⟨"status", .publish, .atMostOnce, .encoder fun n _ => .ok (toString n)⟩]

theorem table_setup_keeps_routes_sound_for_sensor_routes :
    sensorTable.topics = [] ∧ SoundSetup sensorTable sensorSetup :=
  ⟨rfl, table_setup_keeps_routes_sound sensorTable rfl sensorSetup⟩

end TopicTable

end Gateway.Bridge
