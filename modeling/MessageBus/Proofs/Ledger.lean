import MessageBus.Proofs.Scanning

namespace MessageBus

open Wire

/-!
# The ledger of what has arrived

Everything that arrives at a client is entered once, in the order of its arrival, and has
one place at a time: it waits, or it has been taken for something.  Those that wait form the
line.  What is taken is settled from the front of this line (`Ledger.settle`), and what was
settled before is not looked at again.

A search for an acknowledgement settles one entry and leaves those before it waiting, so
that a ledger need not be settled up to some point.  But nothing that was read stands behind
something that waits (`Ledger.InTurn`), and this is why reading is in the order of arrival.
-/

/-- What became of something that has arrived. -/
inductive Place where
  /-- It is in line, or a call holds it. -/
  | waiting
  /-- It was read. -/
  | returned
  /-- It was not wanted when it was read. -/
  | discarded
  /-- It has ended a wait for an acknowledgement. -/
  | consumed
  /-- What is wrong with it was reported instead. -/
  | reported
deriving DecidableEq, Repr

/-- Whether it was taken by reading. -/
def Place.isRead : Place -> Bool
  | .returned | .discarded => true
  | .waiting | .consumed | .reported => false

structure Entry where
  arrival : Arrival
  place : Place := .waiting
deriving DecidableEq, Repr

namespace Ledger

variable {ledger : List Entry} {places : List Place} {line : List Arrival}

/-- What still waits. -/
def waiting : List Entry -> List Arrival
  | [] => []
  | entry :: ledger =>
      if entry.place = .waiting then entry.arrival :: waiting ledger else waiting ledger

/-- What was read. -/
def read : List Entry -> List Arrival
  | [] => []
  | entry :: ledger =>
      if entry.place.isRead then entry.arrival :: read ledger else read ledger

/-- Give places to the first ones that wait. -/
def settle (places : List Place) : List Entry -> List Entry
  | [] => []
  | entry :: ledger =>
      if entry.place = .waiting then
        match places with
        | [] => entry :: ledger
        | place :: places => { entry with place } :: settle places ledger
      else entry :: settle places ledger

/-- What still waits of a line, after its first ones were given places. -/
def remaining : List Place -> List Arrival -> List Arrival
  | place :: places, arrival :: line =>
      if place = .waiting then arrival :: remaining places line else remaining places line
  | _, line => line

/-- What is read from a line by giving places to its first ones. -/
def readings : List Place -> List Arrival -> List Arrival
  | place :: places, arrival :: line =>
      if place.isRead then arrival :: readings places line else readings places line
  | _, _ => []

/-- Nothing that was read stands behind something that waits. -/
def InTurn (ledger : List Entry) : Prop :=
  ledger.Pairwise fun earlier later => earlier.place = .waiting -> later.place.isRead = false

/-- A ledger of what has just arrived. -/
def enter (arrivals : List Arrival) : List Entry :=
  arrivals.map fun arrival => { arrival }

/-! ## Settling -/

theorem arrivals_settle (places : List Place) (ledger : List Entry) :
    (settle places ledger).map Entry.arrival = ledger.map Entry.arrival := by
  fun_induction settle places ledger with
  | case1 => rfl
  | case2 entry ledger waits => rfl
  | case3 entry ledger waits place places ih => rw [List.map_cons, ih, List.map_cons]
  | case4 places entry ledger settled ih => rw [List.map_cons, ih, List.map_cons]

theorem waiting_settle (places : List Place) (ledger : List Entry) :
    waiting (settle places ledger) = remaining places (waiting ledger) := by
  fun_induction settle places ledger with
  | case1 places => cases places <;> rfl
  | case2 entry ledger waits => rfl
  | case3 entry ledger waits place places ih => simp only [waiting, waits, if_true, remaining, ih]
  | case4 places entry ledger settled ih => simp only [waiting, settled, if_false, ih]

theorem settle_nil (ledger : List Entry) : settle [] ledger = ledger := by
  induction ledger with
  | nil => rfl
  | cons entry ledger ih =>
      unfold settle
      rw [ih]
      split <;> rfl

theorem readings_nil (line : List Arrival) : readings [] line = [] := by
  cases line <;> rfl

theorem mem_of_isRead (others : ∀ place ∈ places, place.isRead = false) {entry : Entry}
    (here : entry ∈ settle places ledger) (isRead : entry.place.isRead = true) :
    entry ∈ ledger := by
  fun_induction settle places ledger with
  | case1 => exact here
  | case2 first ledger waits => exact here
  | case3 first ledger waits place places ih =>
      rcases List.forall_mem_cons.mp others with ⟨other, others⟩
      rcases List.mem_cons.mp here with rfl | later
      · exact absurd (other.symm.trans isRead) Bool.false_ne_true
      · exact List.mem_cons_of_mem _ (ih others later)
  | case4 places first ledger settled ih =>
      rcases List.mem_cons.mp here with rfl | later
      · exact List.mem_cons_self
      · exact List.mem_cons_of_mem _ (ih others later)

/-- Whoever reads leaves nothing waiting before what it has read, and whoever leaves
something waiting reads nothing. -/
def IsWhole (places : List Place) : Prop :=
  (∀ place ∈ places, place ≠ .waiting) ∨ ∀ place ∈ places, place.isRead = false

theorem InTurn.settle (inTurn : InTurn ledger) (whole : IsWhole places) :
    InTurn (settle places ledger) := by
  fun_induction Ledger.settle places ledger with
  | case1 => exact inTurn
  | case2 entry ledger waits => exact inTurn
  | case3 entry ledger waits place places ih =>
      rcases List.pairwise_cons.mp inTurn with ⟨first, later⟩
      rcases whole with taken | others
      · rcases List.forall_mem_cons.mp taken with ⟨gone, taken⟩
        exact List.pairwise_cons.mpr
          ⟨fun _ _ stays => absurd stays gone, ih later (Or.inl taken)⟩
      · rcases List.forall_mem_cons.mp others with ⟨_, others⟩
        refine List.pairwise_cons.mpr ⟨fun entry here _ => ?_, ih later (Or.inr others)⟩
        refine Bool.eq_false_of_not_eq_true fun isRead => ?_
        have known := first entry (mem_of_isRead others here isRead) waits
        exact Bool.false_ne_true (known.symm.trans isRead)
  | case4 places entry ledger settled ih =>
      rcases List.pairwise_cons.mp inTurn with ⟨_, later⟩
      exact List.pairwise_cons.mpr ⟨fun _ _ stays => absurd stays settled, ih later whole⟩

theorem read_of_others (others : ∀ entry ∈ ledger, entry.place.isRead = false) :
    read ledger = [] := by
  induction ledger with
  | nil => rfl
  | cons entry ledger ih =>
      rcases List.forall_mem_cons.mp others with ⟨first, later⟩
      simp only [read, first, Bool.false_eq_true, if_false]
      exact ih later

/-- What is read goes behind all that was read before. -/
theorem read_settle (inTurn : InTurn ledger) (places : List Place) :
    read (settle places ledger) = read ledger ++ readings places (waiting ledger) := by
  fun_induction settle places ledger with
  | case1 places => cases places <;> rfl
  | case2 entry ledger waits => exact (List.append_nil _).symm
  | case3 entry ledger waits place places ih =>
      rcases List.pairwise_cons.mp inTurn with ⟨first, later⟩
      have others : ∀ one ∈ entry :: ledger, one.place.isRead = false :=
        List.forall_mem_cons.mpr ⟨by rw [waits]; rfl, fun one here => first one here waits⟩
      have tail := ih later
      rw [read_of_others (List.forall_mem_cons.mp others).2, List.nil_append] at tail
      rw [read_of_others others]
      simp only [read, waiting, waits, if_true, readings, tail, List.nil_append]
  | case4 places entry ledger settled ih =>
      rcases List.pairwise_cons.mp inTurn with ⟨_, later⟩
      simp only [read, waiting, settled, if_false, ih later]
      split <;> rfl

/-! ## Entering -/

theorem waiting_append (early late : List Entry) :
    waiting (early ++ late) = waiting early ++ waiting late := by
  induction early with
  | nil => rfl
  | cons entry early ih =>
      simp only [List.cons_append, waiting, ih]
      split <;> rfl

theorem read_append (early late : List Entry) : read (early ++ late) = read early ++ read late := by
  induction early with
  | nil => rfl
  | cons entry early ih =>
      simp only [List.cons_append, read, ih]
      split <;> rfl

theorem waiting_enter (arrivals : List Arrival) : waiting (enter arrivals) = arrivals := by
  induction arrivals with
  | nil => rfl
  | cons arrival arrivals ih => exact congrArg (arrival :: ·) ih

theorem isRead_enter (arrivals : List Arrival) :
    ∀ entry ∈ enter arrivals, entry.place.isRead = false := by
  intro entry here
  rcases List.mem_map.mp here with ⟨arrival, _, rfl⟩
  rfl

theorem arrivals_enter (arrivals : List Arrival) :
    (enter arrivals).map Entry.arrival = arrivals := by
  simp [enter, Function.comp_def]

theorem InTurn.enter (inTurn : InTurn ledger) (arrivals : List Arrival) :
    InTurn (ledger ++ Ledger.enter arrivals) := by
  have unread := isRead_enter arrivals
  refine List.pairwise_append.mpr ⟨inTurn, ?_, fun _ _ later here _ => unread later here⟩
  exact List.pairwise_of_forall_mem_list fun _ _ later here _ => unread later here

/-! ## Places for the front of a line -/

theorem remaining_front (place : Message -> Place) (front : List Message) (places : List Place)
    (line : List Arrival) :
    remaining (front.map place ++ places) (front.map .message ++ line) =
      (front.filter fun message => place message = .waiting).map .message ++
        remaining places line := by
  induction front with
  | nil => rfl
  | cons message front ih =>
      by_cases stays : place message = .waiting <;> simp [remaining, stays, ih]

theorem waiting_sublist (ledger : List Entry) :
    (waiting ledger).Sublist (ledger.map Entry.arrival) := by
  induction ledger with
  | nil => exact .slnil
  | cons entry ledger ih =>
      unfold waiting
      split
      · exact ih.cons_cons entry.arrival
      · exact ih.cons entry.arrival

end Ledger

end MessageBus
