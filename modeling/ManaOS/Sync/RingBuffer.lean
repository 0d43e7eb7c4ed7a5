/-
The single-producer single-consumer ring buffer (`sync/ring_buffer.rs`).

`push` and `pop` are cut at their loads, slot accesses and stores; a list of moves interleaves them.

* `run_follows`: the slots hold what was pushed and not yet popped;
* `ring_buffer_fifo`, `ring_buffer_drains` (**queue**): a queue that can be emptied.
-/
import Mathlib.Data.List.Induction
import Mathlib.Logic.Function.Basic
import ManaOS.Lib.Checked

namespace ManaOS
namespace LockFreeRingBuffer

/-- Where the producer is in `push`. -/
inductive Producer (T : Type)
  | idle
  | loadedHead (item : T) (head : ℕ)
  | writing (item : T) (head : ℕ)
  | written (item : T) (head : ℕ)

/-- Where the consumer is in `pop`. -/
inductive Consumer (T : Type)
  | idle
  | loadedTail (tail : ℕ)
  | taking (tail : ℕ)
  | taken (tail : ℕ) (item : Option T)

/-- The buffer with the program points of its two users. -/
structure State (T : Type) where
  buffer : ℕ → Option T := fun _ => none
  head : ℕ := 0
  tail : ℕ := 0
  producer : Producer T := .idle
  consumer : Consumer T := .idle

/-- What a call returns. -/
inductive Event (T : Type)
  | pushed (item : T)
  | rejected (item : T)
  | popped (item : Option T)
  | empty

variable {T : Type}

/-- One step of `push`, which is called again with the next item once it has returned. -/
def stepPush (capacity : ℕ) (next : T) (s : State T) : State T × Option (Event T) :=
  match s.producer with
  | .idle => ({ s with producer := .loadedHead next s.head }, none)
  | .loadedHead item head =>
    if (head + 1) % capacity = s.tail then ({ s with producer := .idle }, some (.rejected item))
    else ({ s with producer := .writing item head }, none)
  | .writing item head =>
    ({ s with buffer := Function.update s.buffer head (some item),
              producer := .written item head }, none)
  | .written item head =>
    ({ s with head := (head + 1) % capacity, producer := .idle }, some (.pushed item))

/-- One step of `pop`. -/
def stepPop (capacity : ℕ) (s : State T) : State T × Option (Event T) :=
  match s.consumer with
  | .idle => ({ s with consumer := .loadedTail s.tail }, none)
  | .loadedTail tail =>
    if s.head = tail then ({ s with consumer := .idle }, some .empty)
    else ({ s with consumer := .taking tail }, none)
  | .taking tail =>
    ({ s with buffer := Function.update s.buffer tail none,
              consumer := .taken tail (s.buffer tail) }, none)
  | .taken tail item =>
    ({ s with tail := (tail + 1) % capacity, consumer := .idle }, some (.popped item))

/-- Whose turn it is. -/
inductive Move (T : Type)
  | push (next : T)
  | pop

def step (capacity : ℕ) (s : State T) : Move T → State T × Option (Event T)
  | .push next => stepPush capacity next s
  | .pop => stepPop capacity s

/-- The state after an interleaving, and what the calls returned. -/
def run (capacity : ℕ) (moves : List (Move T)) : State T × List (Event T) :=
  moves.foldl (fun reached move =>
    ((step capacity reached.1 move).1, reached.2 ++ (step capacity reached.1 move).2.toList))
    ({}, [])

/-- The items of the pushes that succeeded. -/
def pushedItems (events : List (Event T)) : List T :=
  events.filterMap fun event => if let .pushed item := event then some item else none

/-- What the pops returned. -/
def poppedItems (events : List (Event T)) : List (Option T) :=
  events.filterMap fun event => if let .popped item := event then some item else none

/-- The slot that `push` has checked and not yet published. -/
def Producer.slot : Producer T → Option ℕ
  | .writing _ head | .written _ head => some head
  | _ => none

/-- The slot that `pop` has checked and not yet released. -/
def Consumer.slot : Consumer T → Option ℕ
  | .taking tail | .taken tail _ => some tail
  | _ => none

/-- What `push` has found still holds: its side alone moves the head, and room stays. -/
def Producer.Fits (head : ℕ) (buffer : ℕ → Option T) (room : Prop) : Producer T → Prop
  | .idle => True
  | .loadedHead _ loaded => loaded = head
  | .writing _ loaded => loaded = head ∧ room
  | .written item loaded => (loaded = head ∧ room) ∧ buffer loaded = some item

/-- What `pop` has found still holds: its side alone moves the tail, and an item stays. -/
def Consumer.Fits (tail : ℕ) (filled : Prop) (first : Option T) : Consumer T → Prop
  | .idle => True
  | .loadedTail loaded => loaded = tail
  | .taking loaded => loaded = tail ∧ filled
  | .taken loaded item => (loaded = tail ∧ filled) ∧ item = first

/-- The state in terms of the items pushed so far and the number of those popped. -/
structure Follows (capacity : ℕ) (s : State T) (pushed : List T) (popped : ℕ) : Prop where
  head_eq : s.head = pushed.length % capacity
  tail_eq : s.tail = popped % capacity
  le : popped ≤ pushed.length
  lt : pushed.length < popped + capacity
  slots : ∀ k, popped ≤ k → k < pushed.length → (k = popped → ∀ tail item,
    s.consumer ≠ .taken tail item) → s.buffer (k % capacity) = pushed[k]?
  producer : s.producer.Fits s.head s.buffer (pushed.length + 1 < popped + capacity)
  consumer : s.consumer.Fits s.tail (popped < pushed.length) pushed[popped]?

lemma Producer.Fits.of_slot {producer : Producer T} (h : producer.Fits head buffer room) {slot : ℕ}
  (hslot : producer.slot = some slot) : slot = head ∧ room := by
  cases producer with
  | idle | loadedHead => cases hslot
  | writing =>
    cases hslot
    exact h
  | written =>
    cases hslot
    exact h.1

lemma Consumer.Fits.of_slot {consumer : Consumer T} (h : consumer.Fits tail filled first) {slot : ℕ}
  (hslot : consumer.slot = some slot) : slot = tail ∧ filled := by
  cases consumer with
  | idle | loadedTail => cases hslot
  | taking =>
    cases hslot
    exact h
  | taken =>
    cases hslot
    exact h.1

lemma mod_ne_mod {a b n : ℕ} (hab : a < b) (hlt : b < a + n) : b % n ≠ a % n := by
  intro h
  have hzero := Nat.sub_mod_eq_zero_of_mod_eq h
  rw [Nat.mod_eq_of_lt (by omega)] at hzero
  omega

namespace Follows
variable {capacity : ℕ} {s : State T} {pushed : List T} {popped : ℕ}

/-- One step of the producer: an item arrives, or the queue stays and is full if `push` fails. -/
lemma push (h : Follows capacity s pushed popped) (hcap : 2 ≤ capacity) (next : T) :
  let after := stepPush capacity next s
  (∃ item, after.2 = some (.pushed item) ∧ Follows capacity after.1 (pushed ++ [item]) popped) ∨
    (after.2 = none ∨ ∃ item, after.2 = some (.rejected item) ∧
      pushed.length = popped + (capacity - 1)) ∧ Follows capacity after.1 pushed popped := by
  have hlt := h.lt
  have hfits := h.producer
  rw [stepPush]
  cases hp : s.producer with
  | idle => exact .inr ⟨.inl rfl, { h with producer := rfl }⟩
  | loadedHead item head =>
    rw [hp] at hfits
    obtain rfl : head = s.head := hfits
    simp only
    split
    · next hfull =>
      refine .inr ⟨.inr ⟨item, rfl, ?_⟩, { h with producer := trivial }⟩
      -- the tail is the next index only if the queue has all slots but one
      by_contra hne
      rw [h.head_eq, h.tail_eq, Nat.mod_add_mod] at hfull
      have hle := h.le
      exact mod_ne_mod (by omega) (by omega) hfull
    next hroom =>
    refine .inr ⟨.inl rfl, { h with producer := ⟨rfl, ?_⟩ }⟩
    refine Nat.lt_of_le_of_ne (by omega) fun heq => hroom ?_
    rw [h.head_eq, h.tail_eq, Nat.mod_add_mod, heq, Nat.add_mod_right]
  | writing item head =>
    rw [hp] at hfits
    obtain ⟨rfl, hroom⟩ := hfits
    refine .inr ⟨.inl rfl, { h with
      slots := fun k hk hlt hkept => ?_
      producer := ⟨⟨rfl, hroom⟩, Function.update_self ..⟩ }⟩
    rw [← h.slots k hk hlt hkept]
    refine Function.update_of_ne ?_ ..
    rw [h.head_eq]
    exact (mod_ne_mod hlt (by omega)).symm
  | written item head =>
    rw [hp] at hfits
    obtain ⟨⟨rfl, _⟩, hwrote⟩ := hfits
    have hgrown : (pushed ++ [item]).length = pushed.length + 1 := List.length_append
    refine .inl ⟨item, rfl, ?_, h.tail_eq, by have := h.le; omega, by omega,
      fun k hk hlt hkept => ?_, trivial, ?_⟩
    · dsimp only
      rw [h.head_eq, Nat.mod_add_mod, hgrown]
    · rcases Nat.lt_or_ge k pushed.length with hold | _
      · rw [List.getElem?_append_left hold]
        exact h.slots k hk hold hkept
      · obtain rfl : k = pushed.length := by omega
        rw [List.getElem?_concat_length, ← hwrote, h.head_eq]
    have hconsumer := h.consumer
    cases hc : s.consumer with
    | idle => trivial
    | loadedTail => rwa [hc] at hconsumer
    | taking =>
      rw [hc] at hconsumer
      exact ⟨hconsumer.1, by have := hconsumer.2; omega⟩
    | taken =>
      rw [hc] at hconsumer
      obtain ⟨⟨htail, hfilled⟩, hitem⟩ := hconsumer
      refine ⟨⟨htail, by omega⟩, ?_⟩
      rw [List.getElem?_append_left hfilled]
      exact hitem

/-- One step of the consumer: the first item leaves, or the queue stays and is empty if `pop`
fails. -/
lemma pop (h : Follows capacity s pushed popped) : let after := stepPop capacity s
  (after.2 = some (.popped pushed[popped]?) ∧
      popped < pushed.length ∧ Follows capacity after.1 pushed (popped + 1)) ∨ (after.2 = none ∨
      after.2 = some .empty ∧ pushed.length = popped) ∧ Follows capacity after.1 pushed popped := by
  have hlt := h.lt
  have hle := h.le
  have hfits := h.consumer
  rw [stepPop]
  cases hc : s.consumer with
  | idle =>
    refine .inr ⟨.inl rfl, { h with
      slots := fun k hk hlt _ => h.slots k hk hlt fun _ _ _ => by rw [hc]; nofun
      consumer := rfl }⟩
  | loadedTail tail =>
    rw [hc] at hfits
    obtain rfl : tail = s.tail := hfits
    have hslots : ∀ k, popped ≤ k → k < pushed.length → s.buffer (k % capacity) = pushed[k]? :=
      fun k hk hlt => h.slots k hk hlt fun _ _ _ => by rw [hc]; nofun
    simp only
    split
    · next hempty =>
      refine .inr ⟨.inr ⟨rfl, ?_⟩, { h with
        slots := fun k hk hlt _ => hslots k hk hlt
        consumer := trivial }⟩
      by_contra hne
      rw [h.head_eq, h.tail_eq] at hempty
      exact mod_ne_mod (by omega) hlt hempty
    next hsome =>
    refine .inr ⟨.inl rfl, { h with
      slots := fun k hk hlt _ => hslots k hk hlt
      consumer := ⟨rfl, Nat.lt_of_le_of_ne hle fun heq => hsome ?_⟩ }⟩
    rw [h.head_eq, h.tail_eq]
    exact congrArg (· % capacity) heq.symm
  | taking tail =>
    rw [hc] at hfits
    obtain ⟨rfl, hfilled⟩ := hfits
    refine .inr ⟨.inl rfl, { h with
      slots := fun k hk hlt hkept => ?_
      producer := ?_
      consumer := ⟨⟨rfl, hfilled⟩, ?_⟩ }⟩
    · have hne : k ≠ popped := fun heq => hkept heq _ _ rfl
      rw [← h.slots k hk hlt fun heq => absurd heq hne]
      refine Function.update_of_ne ?_ ..
      rw [h.tail_eq]
      exact mod_ne_mod (Nat.lt_of_le_of_ne hk hne.symm) (by omega)
    · have hproducer := h.producer
      cases hp : s.producer with
      | written =>
        rw [hp] at hproducer
        obtain ⟨⟨rfl, hroom⟩, hwrote⟩ := hproducer
        refine ⟨⟨rfl, hroom⟩, ?_⟩
        rw [← hwrote]
        refine Function.update_of_ne ?_ ..
        rw [h.head_eq, h.tail_eq]
        exact mod_ne_mod hfilled hlt
      | _ => rwa [hp] at hproducer
    · rw [h.tail_eq]
      exact h.slots popped le_rfl hfilled fun _ _ _ => by rw [hc]; nofun
  | taken tail item =>
    rw [hc] at hfits
    obtain ⟨⟨rfl, hfilled⟩, rfl⟩ := hfits
    refine .inl ⟨rfl, hfilled, { h with
      tail_eq := ?_
      le := hfilled
      lt := by omega
      slots := fun k hk hlt _ => h.slots k (by omega) hlt fun heq => by omega
      producer := ?_
      consumer := trivial }⟩
    · dsimp only
      rw [h.tail_eq, Nat.mod_add_mod]
    have hproducer := h.producer
    cases hp : s.producer with
    | idle => trivial
    | loadedHead => rwa [hp] at hproducer
    | writing =>
      rw [hp] at hproducer
      exact ⟨hproducer.1, by omega⟩
    | written =>
      rw [hp] at hproducer
      exact ⟨⟨hproducer.1.1, by omega⟩, hproducer.2⟩

/-- The two sides work on different slots. -/
lemma slot_ne (h : Follows capacity s pushed popped) {slot : ℕ}
  (hproducer : s.producer.slot = some slot) : s.consumer.slot ≠ some slot := by
  intro hconsumer
  have hhead := (h.producer.of_slot hproducer).1
  obtain ⟨htail, hfilled⟩ := h.consumer.of_slot hconsumer
  rw [hhead, h.head_eq, h.tail_eq] at htail
  exact mod_ne_mod hfilled h.lt htail

end Follows

/-- **Along every interleaving the slots hold what was pushed and not yet popped.** -/
lemma run_follows (hcap : 2 ≤ capacity) (moves : List (Move T)) :
    ∃ popped,
      Follows capacity (run capacity moves).1 (pushedItems (run capacity moves).2) popped ∧
      poppedItems (run capacity moves).2 =
        ((pushedItems (run capacity moves).2).take popped).map some := by
  induction moves using List.reverseRecOn with
  | nil =>
    refine ⟨0, ⟨?_, ?_, le_rfl, ?_, nofun, trivial, trivial⟩, rfl⟩
    · exact (Nat.zero_mod _).symm
    · exact (Nat.zero_mod _).symm
    · exact Nat.lt_of_lt_of_le Nat.zero_lt_two (hcap.trans_eq (Nat.zero_add _).symm)
  | append_singleton moves move ih =>
    obtain ⟨popped, h, hpopped⟩ := ih
    simp only [run, List.foldl_append, List.foldl_cons, List.foldl_nil] at h hpopped ⊢
    generalize moves.foldl _ _ = reached at h hpopped ⊢
    simp only [pushedItems, poppedItems, List.filterMap_append] at h hpopped ⊢
    cases move with
    | push next =>
      rcases h.push hcap next with ⟨item, hevent, hnext⟩ | ⟨hevent | ⟨item, hevent, -⟩, hnext⟩ <;>
        refine ⟨popped, ?_, ?_⟩ <;> simp only [step, hevent, hpopped, Option.toList_some,
          Option.toList_none, List.filterMap_cons, List.filterMap_nil, List.append_nil]
      · exact hnext
      · rw [List.take_append_of_le_length h.le]
      · exact hnext
      · exact hnext
    | pop =>
      rcases h.pop with ⟨hevent, hlt, hnext⟩ | ⟨hevent | ⟨hevent, -⟩, hnext⟩
      · refine ⟨popped + 1, ?_, ?_⟩ <;> simp only [step, hevent, hpopped, Option.toList_some,
          List.filterMap_cons, List.filterMap_nil, List.append_nil]
        · exact hnext
        · rw [List.take_add_one, List.map_append, List.getElem?_eq_getElem hlt]
          rfl
      all_goals
        refine ⟨popped, ?_, ?_⟩ <;> simp only [step, hevent, hpopped, Option.toList_some,
          Option.toList_none, List.filterMap_cons, List.filterMap_nil, List.append_nil]
        exact hnext

/-- **The ring buffer is a queue.** -/
theorem ring_buffer_fifo (capacity : ℕ) (hcap : 2 ≤ capacity) (moves : List (Move T))
  (move : Move T) :
  let s := (run capacity moves).1
  let pushed := pushedItems (run capacity moves).2
  let popped := poppedItems (run capacity moves).2
  (∃ items, popped = items.map some ∧ items <+: pushed) ∧
  (∀ item, (step capacity s move).2 = some (.rejected item) →
    pushed.length = popped.length + (capacity - 1)) ∧
  ((step capacity s move).2 = some .empty → pushed.length = popped.length) ∧
  (∀ slot, s.producer.slot = some slot → s.consumer.slot ≠ some slot) := by
  intro s pushed popped
  obtain ⟨count, h, hpopped⟩ := run_follows hcap moves
  have hlength : popped.length = count := by
    simp only [popped]
    rw [hpopped, List.length_map, List.length_take, Nat.min_eq_left h.le]
  rw [hlength]
  refine ⟨⟨_, hpopped, List.take_prefix ..⟩, fun item hitem => ?_, fun hempty => ?_, fun slot =>
    h.slot_ne⟩
  · cases move with
    | push next =>
      rcases h.push hcap next with ⟨_, hevent, -⟩ | ⟨hevent | ⟨_, -, hfull⟩, -⟩
      · cases hitem.symm.trans hevent
      · cases hitem.symm.trans hevent
      · exact hfull
    | pop =>
      rcases h.pop with ⟨hevent, -⟩ | ⟨hevent | ⟨hevent, -⟩, -⟩ <;> cases hitem.symm.trans hevent
  cases move with
  | push next =>
    rcases h.push hcap next with ⟨_, hevent, -⟩ | ⟨hevent | ⟨_, hevent, -⟩, -⟩ <;>
      cases hempty.symm.trans hevent
  | pop =>
    rcases h.pop with ⟨hevent, -⟩ | ⟨hevent | ⟨-, hnone⟩, -⟩
    · cases hempty.symm.trans hevent
    · cases hempty.symm.trans hevent
    · exact hnone

/-- Two slots, one item in flight. -/
theorem ring_buffer_fifo_two_slots :
    2 ≤ 2 ∧
    ∃ items : List ℕ,
      poppedItems (run 2 [.push 7, .push 0, .push 0, .push 0, .pop, .pop, .pop, .pop]).2 =
        items.map some ∧
      items <+: [7] :=
  ⟨le_rfl, (ring_buffer_fifo 2 le_rfl
    [.push 7, .push 0, .push 0, .push 0, .pop, .pop, .pop, .pop] .pop).1⟩

/-- The steps of `pop` that have been taken. -/
def Consumer.progress : Consumer T → ℕ
  | .idle => 0
  | .loadedTail _ => 1
  | .taking _ => 2
  | .taken .. => 3

lemma Consumer.progress_le (consumer : Consumer T) : consumer.progress ≤ 3 := by
  cases consumer <;> simp [progress]

lemma progress_stepPop {s : State T} (h : (stepPop capacity s).2 = none) :
  (stepPop capacity s).1.consumer.progress = s.consumer.progress + 1 := by
  rw [stepPop] at h ⊢
  cases hc : s.consumer with
  | idle | taking => rfl
  | loadedTail tail =>
    simp only [hc] at h ⊢
    split at h
    · cases h
    · rw [if_neg ‹_›]
      rfl
  | taken =>
    rw [hc] at h
    cases h

/-- The consumer alone pops what is queued, in at most four steps for each item. -/
lemma Follows.drains {pushed : List T} (h : Follows capacity s pushed popped)
    (hbudget : 4 * (pushed.length - popped) ≤ budget + s.consumer.progress)
    (events : List (Event T)) :
    ∃ steps ≤ budget,
      poppedItems
        ((List.replicate steps .pop).foldl (fun reached move => ((step capacity reached.1 move).1,
          reached.2 ++ (step capacity reached.1 move).2.toList)) (s, events)).2 =
        poppedItems events ++ (pushed.drop popped).map some := by
  have hdone : ∀ {popped} {events : List (Event T)}, pushed.length ≤ popped → poppedItems events =
    poppedItems events ++ (pushed.drop popped).map some := by
    intro popped events hle
    rw [List.drop_eq_nil_of_le hle, List.map_nil, List.append_nil]
  induction budget generalizing s popped events with
  | zero =>
    have hprogress := s.consumer.progress_le
    exact ⟨0, le_rfl, hdone (by omega)⟩
  | succ budget ih =>
    have hprogress := s.consumer.progress_le
    have hstep : step capacity s .pop = stepPop capacity s := rfl
    rcases h.pop with ⟨hevent, hlt, hnext⟩ | ⟨hevent | ⟨-, hempty⟩, hnext⟩
    · obtain ⟨steps, hsteps, heq⟩ := ih hnext (by omega) (events ++ [.popped pushed[popped]?])
      refine ⟨steps + 1, by omega, ?_⟩
      simp only [List.replicate_succ, List.foldl_cons, hstep, hevent, Option.toList_some]
      have hitem : poppedItems (events ++ [.popped pushed[popped]?]) =
        poppedItems events ++ [pushed[popped]?] := by simp [poppedItems]
      rw [heq, hitem, List.append_assoc, List.drop_eq_getElem_cons hlt,
        List.getElem?_eq_getElem hlt]
      rfl
    · obtain ⟨steps, hsteps, heq⟩ := ih hnext (by rw [progress_stepPop hevent]; omega) events
      refine ⟨steps + 1, by omega, ?_⟩
      simp only [List.replicate_succ, List.foldl_cons, hstep, hevent, Option.toList_none,
        List.append_nil]
      exact heq
    · exact ⟨0, Nat.zero_le _, hdone hempty.le⟩

/-- **What was pushed can be popped.**  After every interleaving the consumer alone pops all queued
items, in order and within four steps for each slot. -/
theorem ring_buffer_drains (capacity : ℕ) (hcap : 2 ≤ capacity) (moves : List (Move T)) :
  ∃ steps ≤ 4 * capacity, poppedItems (run capacity (moves ++ List.replicate steps .pop)).2 =
    (pushedItems (run capacity moves).2).map some := by
  obtain ⟨popped, h, hpopped⟩ := run_follows hcap moves
  have hlt := h.lt
  have hbudget : 4 * ((pushedItems (run capacity moves).2).length - popped) ≤
    4 * capacity + (run capacity moves).1.consumer.progress := by omega
  obtain ⟨steps, hsteps, heq⟩ := h.drains hbudget (run capacity moves).2
  refine ⟨steps, hsteps, ?_⟩
  rw [run, List.foldl_append, ← run]
  refine heq.trans ?_
  rw [hpopped, ← List.map_append, List.take_append_drop]

/-- One item in two slots. -/
theorem ring_buffer_drains_two_slots :
    2 ≤ 2 ∧
    ∃ steps ≤ 8,
      poppedItems (run 2 ([.push 7, .push 0, .push 0, .push 0] ++ List.replicate steps .pop)).2 =
        [some 7] :=
  ⟨le_rfl, ring_buffer_drains 2 le_rfl [.push 7, .push 0, .push 0, .push 0]⟩

end LockFreeRingBuffer
end ManaOS
