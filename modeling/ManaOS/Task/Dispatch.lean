/-
An abstract dispatcher: task slots of which exactly one runs.

The first slot is the kernel's own task, which takes the CPU back when a user task stops.

* `Sound.steps`: every run keeps the invariant;
* `Steps.finished`: a finished slot stays finished.
-/
import ManaOS.Task.Context
import Mathlib.Logic.Relation

namespace ManaOS

/-- What the dispatcher sees of a task. -/
structure Slot where
  isUser : Bool
  state : TaskState
  deriving DecidableEq

/-- The slots and the index of the current one. -/
@[ext] structure Dispatch where
  slots : List Slot
  current : ℕ

namespace Dispatch

def setState (d : Dispatch) (index : ℕ) (state : TaskState) : Dispatch :=
  { d with slots := d.slots.modify index ({ · with state }) }

def slot? (d : Dispatch) (index : ℕ) : Option Slot := d.slots[index]?

lemma slot?_setState (d : Dispatch) (index j : ℕ) (state : TaskState) :
  (d.setState index state).slot? j =
    (d.slot? j).map fun slot => if index = j then { slot with state } else slot := by
  rw [slot?, setState, List.getElem?_modify]
  rfl

/-- The steps of the dispatcher. -/
inductive Step : Dispatch → Dispatch → Prop
  /-- A new slot starts ready. -/
  | spawn (d : Dispatch) (isUser : Bool) :
      Step d { d with slots := d.slots ++ [⟨isUser, .ready⟩] }
  /-- Some blocked user slots become ready. -/
  | wake (d : Dispatch) (slots : List Slot) (hlength : slots.length = d.slots.length)
      (h : ∀ index slot, d.slot? index = some slot → slots[index]? = some slot ∨
        (slot = ⟨true, .blocked⟩ ∧ slots[index]? = some ⟨true, .ready⟩)) :
      Step d { d with slots }
  /-- The current slot waits or blocks and a ready one takes over. -/
  | handOff (d : Dispatch) (next : ℕ) (kind : Bool) (left : TaskState)
      (hnext : d.slot? next = some ⟨kind, .ready⟩) (hleft : left = .ready ∨ left = .blocked) :
      Step d { (d.setState d.current left).setState next .running with current := next }
  /-- The current user slot blocks or finishes and the first slot takes over. -/
  | stop (d : Dispatch) (left : TaskState)
      (hcurrent : d.slot? d.current = some ⟨true, .running⟩)
      (hleft : left = .blocked ∨ left = .finished) :
      Step d { (d.setState d.current left).setState 0 .running with current := 0 }

def Steps : Dispatch → Dispatch → Prop := Relation.ReflTransGen Step

/-- **The dispatcher's invariant.**  The current slot runs, and the first slot is a kernel task that
has not finished. -/
structure Sound (d : Dispatch) : Prop where
  current_lt : d.current < d.slots.length
  first : ∃ state, d.slot? 0 = some ⟨false, state⟩ ∧ state ≠ .finished
  running_iff : ∀ index slot, d.slot? index = some slot →
    (slot.state = .running ↔ index = d.current)

variable {index : ℕ} {d d' : Dispatch}

lemma Sound.lt_of_slot? (h : d.slot? index = some slot) : index < d.slots.length := by
  by_contra hlt
  rw [slot?, List.getElem?_eq_none (Nat.le_of_not_lt hlt)] at h
  cases h

lemma slot?_handOff
    (h : ((d.setState source left).setState target .running).slot? index = some slot) :
    ∃ old,
      d.slot? index = some old ∧
      slot.state =
        if target = index then .running else if source = index then left else old.state := by
  rw [slot?_setState, slot?_setState] at h
  obtain ⟨_, hmid, rfl⟩ := Option.map_eq_some_iff.1 h
  obtain ⟨old, hold, rfl⟩ := Option.map_eq_some_iff.1 hmid
  refine ⟨old, hold, ?_⟩
  split <;> split <;> simp_all

/-- One step keeps the invariant. -/
theorem Sound.step (hd : d.Sound) (h : Step d d') : d'.Sound := by
  cases h with
  | spawn isUser =>
    obtain ⟨state, hfirst, hne⟩ := hd.first
    have happend : ∀ index < d.slots.length, (d.slots ++ [(⟨isUser, .ready⟩ : Slot)])[index]? =
      d.slots[index]? := fun index hlt => List.getElem?_append_left hlt
    refine ⟨?_, ⟨state, ?_, hne⟩, ?_⟩
    · show d.current < (d.slots ++ [_]).length
      have h := hd.current_lt
      simp only [List.length_append, List.length_singleton]
      omega
    · rw [slot?, happend 0 (Sound.lt_of_slot? hfirst)]
      exact hfirst
    intro index slot hslot
    rcases Nat.lt_or_ge index d.slots.length with hlt | hge
    · rw [slot?, happend index hlt] at hslot
      exact hd.running_iff index slot hslot
    -- the new slot is ready, and it is not the current one
    have hready : slot.state = .ready := by
      rw [slot?, List.getElem?_append_right hge, List.getElem?_singleton] at hslot
      split at hslot
      · cases hslot
        rfl
      · cases hslot
    have h := hd.current_lt
    rw [hready]
    constructor
    · intro hrun
      cases hrun
    · intro heq
      change index = d.current at heq
      omega
  | wake slots hlen hwoken =>
    obtain ⟨state, hfirst, hne⟩ := hd.first
    refine ⟨?_, ⟨state, ?_, hne⟩, ?_⟩
    · show d.current < slots.length
      rw [hlen]
      exact hd.current_lt
    · rcases hwoken 0 _ hfirst with hkeep | ⟨hblk, -⟩
      · exact hkeep
      · cases hblk
    intro index slot hslot
    change slots[index]? = some slot at hslot
    have hlt : index < d.slots.length := by
      rw [← hlen]
      exact (List.getElem?_eq_some_iff.1 hslot).1
    have hold := List.getElem?_eq_getElem hlt
    have hrun := hd.running_iff index _ hold
    rcases hwoken index _ hold with hkeep | ⟨hblk, hready⟩
    · rw [hslot] at hkeep
      cases hkeep
      exact hrun
    rw [hslot] at hready
    cases hready
    rw [hblk] at hrun
    simpa using hrun
  | handOff next _ left hnext hleft =>
    obtain ⟨state, hfirst, hne⟩ := hd.first
    refine ⟨?_, ?_, ?_⟩
    · show next < ((d.slots.modify _ _).modify next _).length
      rw [List.length_modify, List.length_modify]
      exact Sound.lt_of_slot? hnext
    · show ∃ state, ((d.setState d.current left).setState next .running).slot? 0 = _ ∧ _
      rw [slot?_setState, slot?_setState, hfirst]
      refine ⟨if next = 0 then .running else if d.current = 0 then left else state, ?_, ?_⟩
      · simp only [Option.map_some]
        split <;> split <;> rfl
      · rcases hleft with rfl | rfl <;> split_ifs <;> simp [hne]
    intro index slot hslot
    change ((d.setState d.current left).setState next .running).slot? index = _ at hslot
    obtain ⟨old, hold, hsta⟩ := slot?_handOff hslot
    have hold' := hd.running_iff index old hold
    rw [hsta]
    show _ ↔ index = next
    rcases hleft with rfl | rfl <;> split_ifs <;> simp_all [eq_comm]
  | stop left hcur hleft =>
    obtain ⟨state, hfirst, _⟩ := hd.first
    have hpos : d.current ≠ 0 := by
      intro h
      rw [h, hfirst] at hcur
      cases hcur
    refine ⟨?_, ?_, ?_⟩
    · show 0 < ((d.slots.modify _ _).modify 0 _).length
      rw [List.length_modify, List.length_modify]
      exact Sound.lt_of_slot? hfirst
    · show ∃ state, ((d.setState d.current left).setState 0 .running).slot? 0 = _ ∧ _
      rw [slot?_setState, slot?_setState, hfirst]
      exact ⟨.running, by simp [hpos], by simp⟩
    intro index slot hslot
    change ((d.setState d.current left).setState 0 .running).slot? index = _ at hslot
    obtain ⟨old, hold, hsta⟩ := slot?_handOff hslot
    have hold' := hd.running_iff index old hold
    rw [hsta]
    show _ ↔ index = 0
    rcases hleft with rfl | rfl <;> split_ifs <;> simp_all [eq_comm]

/-- Every run keeps the invariant. -/
theorem Sound.steps (hd : d.Sound) (h : Steps d d') : d'.Sound := by
  induction h with
  | refl => exact hd
  | tail _ hstep ih => exact ih.step hstep

lemma Step.finished (hd : d.Sound) (h : Step d d') (hfin : d.slot? index = some ⟨kind, .finished⟩) :
  d'.slot? index = some ⟨kind, .finished⟩ := by
  cases h with
  | spawn _ =>
    rw [slot?, List.getElem?_append_left (Sound.lt_of_slot? hfin)]
    exact hfin
  | wake _ _ hwoken =>
    rcases hwoken index _ hfin with hkeep | ⟨hblk, -⟩
    · exact hkeep
    · cases hblk
  | handOff next _ left hnext hleft =>
    have hnext' : next ≠ index := by
      rintro rfl
      rw [hnext] at hfin
      cases hfin
    have hcurrent : d.current ≠ index := fun heq => by
      have h := (hd.running_iff index _ hfin).2 heq.symm
      cases h
    show ((d.setState d.current left).setState next .running).slot? index = _
    simp [slot?_setState, hfin, hnext', hcurrent]
  | stop left _ _ =>
    obtain ⟨_, hfirst, hne⟩ := hd.first
    have hzero : 0 ≠ index := by
      rintro rfl
      rw [hfirst] at hfin
      cases hfin
      exact hne rfl
    have hcur : d.current ≠ index := fun heq => by
      have h := (hd.running_iff index _ hfin).2 heq.symm
      cases h
    show ((d.setState d.current left).setState 0 .running).slot? index = _
    simp [slot?_setState, hfin, hzero, hcur]

/-- **A finished slot stays finished in every run.** -/
theorem Steps.finished (hd : d.Sound) (h : Steps d d')
  (hfin : d.slot? index = some ⟨kind, .finished⟩) : d'.slot? index = some ⟨kind, .finished⟩ := by
  induction h with
  | refl => exact hfin
  | tail hrun hstep ih => exact hstep.finished (hd.steps hrun) ih

end Dispatch
end ManaOS
