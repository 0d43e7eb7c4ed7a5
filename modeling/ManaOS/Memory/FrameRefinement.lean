/-
The frame allocator refines the frame map, over every history.

A history is a list of registrations and a trace of calls with their replies; a successful call
relabels the frames it names, a refused one does nothing.

* `allocator_refines_frameMap` (**refinement**): the allocator encodes the replayed trace;
* `allocator_first_fit_and_exact_free`: the lowest run, and frees by the owner only;
* `trackedRanges_sorted_and_merged`: the order of the table;
* `allocator_history_independent`: the table is a function of the labels.
-/
import ManaOS.Memory.FrameOps

namespace ManaOS
open Checked RunList PhysicalFrameAllocator FrameMap

/-- The frame map that the tracked ranges encode. -/
def PhysicalFrameAllocator.frameMap (a : PhysicalFrameAllocator) : FrameMap :=
  labelAt (runs a.trackedRanges)

/-! ### Calls, replies and their abstract effect -/

/-- The calls of the kernel on the allocator. -/
inductive FrameCall
  | allocate (frameCount : FrameCount) (owner : FrameRangeOwner)
  | free (range : PhysicalFrameRange) (owner : FrameRangeOwner)
  deriving DecidableEq

inductive FrameReply
  | allocated (range : Option PhysicalFrameRange)
  | freed (success : Bool)
  deriving DecidableEq

def FrameCall.perform (a : PhysicalFrameAllocator) :
  FrameCall → Panicking (FrameReply × PhysicalFrameAllocator)
  | .allocate frameCount owner => do
      let (range, a) ← a.allocateFramesFor frameCount owner
      return (.allocated range, a)
  | .free range owner => do
      let (success, a) ← a.freeFramesFor range owner
      return (.freed success, a)

/-- `None` or `false` was returned. -/
def FrameReply.Refused : FrameReply → Prop
  | .allocated range => range = none
  | .freed success => success = false

/-- The effect of a call and its reply: the frames returned become used, those given free. -/
def FrameMap.replay (m : FrameMap) : FrameCall × FrameReply → FrameMap
  | (.allocate _ owner, .allocated (some range)) =>
    fun f => if range.Covers f then some (.used, owner) else m f
  | (.free range _, .freed true) => fun f => if range.Covers f then some (.free, .free) else m f
  | _ => m

/-- The map allows the reply: allocated frames were free, freed frames were used by the owner. -/
def FrameMap.Allows (m : FrameMap) : FrameCall × FrameReply → Prop
  | (.allocate frameCount _, .allocated (some range)) =>
    range.frameCount = frameCount ∧ ∀ f, range.Covers f → m.IsFree f
  | (.free range owner, .freed true) => ∀ f, range.Covers f → m.IsUsedBy owner f
  | (.allocate _ _, .allocated none) => True
  | (.free _ _, .freed false) => True
  | _ => False

/-! ### Histories -/

/-- The registrations are page aligned and pairwise disjoint. -/
structure WellPlaced (regs : List Registration) : Prop where
  aligned : ∀ r ∈ regs, r.start % pageSize = 0
  disjoint : regs.Pairwise fun r s => r.stop ≤ s.start ∨ s.stop ≤ r.start

/-- The frame map after the registrations. -/
def registeredMap (regs : List Registration) : FrameMap :=
  regs.foldl Registration.apply fun _ => none

/-- The allocator that registrations and the calls of the trace lead to without a panic. -/
inductive Reached (regs : List Registration) :
    List (FrameCall × FrameReply) → PhysicalFrameAllocator → Prop
  | registered {a : PhysicalFrameAllocator}
      (h : regs.foldlM Registration.perform PhysicalFrameAllocator.new = .ok a) :
      Reached regs [] a
  | called {trace : List (FrameCall × FrameReply)} {a a' : PhysicalFrameAllocator}
      {call : FrameCall} {reply : FrameReply} (h : Reached regs trace a)
      (hcall : call.perform a = .ok (reply, a')) : Reached regs (trace ++ [(call, reply)]) a'

variable {m : FrameMap} {a : PhysicalFrameAllocator} {trace : List (FrameCall × FrameReply)}
    {ranges : List TrackedRange} {f : ℕ}

lemma represents_foldlM (hregs : WellPlaced regs) (hrep : Represents a.trackedRanges m)
  (hs : m.IsSound) (hfree : ∀ r ∈ regs, ∀ f, r.Covers f → m f = none)
  (h : regs.foldlM Registration.perform a = .ok a') :
  Represents a'.trackedRanges (regs.foldl Registration.apply m) ∧
    (regs.foldl Registration.apply m).IsSound := by
  induction regs generalizing a m with
  | nil =>
    obtain rfl : a = a' := by simpa [List.foldlM, pure, Except.pure] using h
    exact ⟨hrep, hs⟩
  | cons r _ ih =>
    rw [List.foldlM_cons, bind_eq_ok] at h
    obtain ⟨b, hb, hrest⟩ := h
    obtain ⟨hsep, hpw⟩ := List.pairwise_cons.mp hregs.disjoint
    rcases r.perform_spec hrep (hregs.aligned r (by simp)) (hfree r (by simp)) with
      ⟨herr, -⟩ | ⟨b', hb', hrep'⟩
    · simp [herr] at hb
    obtain rfl : b' = b := by simpa [hb'] using hb
    refine ih ⟨fun s hs' => hregs.aligned s (by simp [hs']), hpw⟩ hrep'
      (r.isSound_apply hs) (fun s hs' f hf => ?_) hrest
    -- a frame of a later registration is not touched by this one
    rw [Registration.apply, if_neg, hfree s (by simp [hs']) f hf]
    rintro ⟨-, ⟨_, _⟩, -⟩
    obtain ⟨_, _⟩ := hf
    rcases hsep s hs' with _ | _ <;> omega

lemma represents_new : Represents new.trackedRanges fun _ => none where
  exact := by simp [new]
  sorted := IsSorted.nil
  labelAt_eq _ := rfl
  canonical := ⟨IsSorted.nil, List.Pairwise.nil⟩
  length_le := by simp [new]

lemma isSound_empty : FrameMap.IsSound fun _ => none := by
  constructor <;> simp

lemma isSound_foldl_apply (regs : List Registration) (hs : m.IsSound) :
  (regs.foldl Registration.apply m).IsSound := by
  induction regs generalizing m with
  | nil => exact hs
  | cons r _ ih => exact ih (r.isSound_apply hs)

/-- The message of the owner assertion of an allocation. -/
def nonFreeOwnerRequired : String := "allocated frames must record a non-free owner"

lemma allocateFramesFor_free (a : PhysicalFrameAllocator) (frameCount : FrameCount) :
  a.allocateFramesFor frameCount .free = .error nonFreeOwnerRequired := rfl

/-- One call on a represented sound map: an allowed pointwise update, or a panic. -/
lemma FrameCall.perform_spec (hrep : Represents a.trackedRanges m) (hs : m.IsSound)
    (call : FrameCall) :
    (∃ reply a',
      call.perform a = .ok (reply, a') ∧
      m.Allows (call, reply) ∧
      Represents a'.trackedRanges (m.replay (call, reply)) ∧
      (m.replay (call, reply)).IsSound ∧
      (reply.Refused → a' = a)) ∨
    (call.perform a = .error capacityExhausted ∧ maxTrackedRanges ≤ a.trackedRanges.length + 1) ∨
    ((∃ frameCount, call = .allocate frameCount .free) ∧
     call.perform a = .error nonFreeOwnerRequired) := by
  cases call with
  | allocate frameCount owner =>
    by_cases howner : owner = .free
    · subst howner
      refine Or.inr (Or.inr ⟨⟨frameCount, rfl⟩, ?_⟩)
      rw [perform, allocateFramesFor_free, error_bind]
    rcases allocateFramesFor_spec hrep hs frameCount howner with
      ⟨-, hok⟩ | ⟨start, -, hroom, herr⟩ | ⟨range, a', hok, rfl, ⟨hfree, -⟩, -, hrep'⟩
    · refine Or.inl ⟨.allocated none, a, ?_, trivial, hrep, hs, fun _ => rfl⟩
      rw [perform, hok]
      rfl
    · refine Or.inr (Or.inl ⟨?_, hrep.length_of_not_hasRoom hroom⟩)
      rw [perform, herr, error_bind]
    refine Or.inl ⟨.allocated (some range), a', ?_, ⟨rfl, fun f hf => hfree f hf.1 hf.2⟩,
      hrep', ?_, by simp [FrameReply.Refused]⟩
    · rw [perform, hok]
      rfl
    · exact hs.mark (by simp) (fun _ => howner)
        fun _ => hs.start_pos range.frameCount.pos hfree
  | free range owner =>
    by_cases howner : owner = .free
    · subst howner
      refine Or.inl ⟨.freed false, a, ?_, trivial, hrep, hs, fun _ => rfl⟩
      rfl
    rcases freeFramesFor_spec hrep range howner with
      ⟨-, hok⟩ | ⟨hall, ⟨hroom, herr⟩ | ⟨-, a', hok, hrep'⟩⟩
    · refine Or.inl ⟨.freed false, a, ?_, trivial, hrep, hs, fun _ => rfl⟩
      rw [perform, hok]
      rfl
    · refine Or.inr (Or.inl ⟨?_, hrep.length_of_not_hasRoom hroom⟩)
      rw [perform, herr, error_bind]
    refine Or.inl ⟨.freed true, a', ?_, fun f hf => hall f hf.1 hf.2, hrep', ?_,
      by simp [FrameReply.Refused]⟩
    · rw [perform, hok]
      rfl
    -- frame zero is not used, so it is not in the freed range
    refine hs.mark (by simp) (by simp) fun _ => ?_
    by_contra hz
    have h0 := hall 0 (by omega) (by have := range.frameCount.pos; omega)
    exact absurd (hs.zero _ _ h0) (by simp)

lemma FrameCall.perform_ok (hrep : Represents a.trackedRanges m) (hs : m.IsSound) {call : FrameCall}
  (h : call.perform a = .ok (reply, a')) :
  m.Allows (call, reply) ∧ Represents a'.trackedRanges (m.replay (call, reply)) ∧
    (m.replay (call, reply)).IsSound ∧ (reply.Refused → a' = a) := by
  rcases call.perform_spec hrep hs with ⟨reply', b, hok, hrest⟩ | ⟨herr, -⟩ | ⟨-, herr⟩
  · rw [h] at hok
    obtain ⟨rfl, rfl⟩ : reply = reply' ∧ a' = b := by simpa using hok
    exact hrest
  · rw [h] at herr
    simp at herr
  · rw [h] at herr
    simp at herr

/-- Every event of the trace is allowed by the map it meets. -/
def FrameMap.AllowsTrace : FrameMap → List (FrameCall × FrameReply) → Prop
  | _, [] => True
  | m, event :: trace => m.Allows event ∧ (m.replay event).AllowsTrace trace

lemma FrameMap.allowsTrace_append :
  m.AllowsTrace (t1 ++ t2) ↔ m.AllowsTrace t1 ∧ (t1.foldl replay m).AllowsTrace t2 := by
  induction t1 generalizing m with
  | nil => simp [AllowsTrace]
  | cons e _ ih => simp only [List.cons_append, AllowsTrace, ih, List.foldl_cons, and_assoc]

lemma Reached.represents (hregs : WellPlaced regs) (h : Reached regs trace a) :
    Represents a.trackedRanges (trace.foldl replay (registeredMap regs)) ∧
    (trace.foldl replay (registeredMap regs)).IsSound ∧
    (registeredMap regs).AllowsTrace trace := by
  induction h with
  | registered h =>
    obtain ⟨hrep, hs⟩ := represents_foldlM hregs represents_new isSound_empty (by simp) h
    exact ⟨hrep, hs, trivial⟩
  | called h hcall ih =>
    obtain ⟨hrep, hs, htr⟩ := ih
    obtain ⟨hall, hrep', hs', -⟩ := FrameCall.perform_ok hrep hs hcall
    rw [List.foldl_append, List.foldl_cons, List.foldl_nil]
    exact ⟨hrep', hs', allowsTrace_append.mpr ⟨htr, hall, trivial⟩⟩

lemma Represents.frameMap_eq (h : Represents a.trackedRanges m) : a.frameMap = m :=
  funext h.labelAt_eq

/-! ### Statistics -/

/-- The number of frames in ranges whose label passes the test. -/
def totalPages (p : FrameLabel → Bool) (ranges : List TrackedRange) : ℕ := totalLen p (runs ranges)

lemma totalPages_cons (p : FrameLabel → Bool) (t : TrackedRange) (ranges : List TrackedRange) :
  totalPages p (t :: ranges) = (bif p t.label then t.region.pages else 0) + totalPages p ranges :=
  totalLen_cons p t.toRun (runs ranges)

lemma totalPages_state_cons (state : FrameRangeState) (t : TrackedRange)
    (ranges : List TrackedRange) :
    totalPages (fun l => l.1 == state) (t :: ranges) =
      (if t.state = state then t.region.pages else 0) +
        totalPages (fun l => l.1 == state) ranges := by
  rw [totalPages_cons]
  by_cases h : t.state = state
  · simp [TrackedRange.label, h]
  · simp [TrackedRange.label, h, beq_eq_false_iff_ne.mpr h]

lemma Represents.totalPages_lt (h : Represents ranges m) (p : FrameLabel → Bool) :
    totalPages p ranges < wordSize := by
  have hle : totalPages p ranges ≤ wordSize / pageSize := by
    refine h.sorted.totalLen_le (fun r hr => ?_) p
    obtain ⟨t, ht, rfl⟩ := List.mem_map.mp hr
    have hfit := (h.exact t ht).fits
    have hst := (h.exact t ht).start_eq
    rw [Run.stop, TrackedRange.toRun_start, TrackedRange.toRun_len]
    rw [wordSize_eq, pageSize] at *
    omega
  exact hle.trans_lt (by decide)

lemma Represents.encard_eq (h : Represents ranges m) (p : FrameLabel → Bool) :
  {f | ∃ x, m f = some x ∧ p x = true}.encard = totalPages p ranges := by
  have hset : {f | ∃ x, m f = some x ∧ p x = true} = labelled p (runs ranges) := by
    ext f
    simp only [labelled, Set.mem_ofPred_eq, h.labelAt_eq]
  rw [hset, ← (h.sorted.finite_and_ncard_labelled p).1.cast_ncard_eq, h.sorted.ncard_labelled]
  rfl

lemma foldl_countState (ranges : List TrackedRange) (acc : FrameAllocatorStatistics)
    (hr : acc.reserved + totalPages (fun l => l.1 == .reserved) ranges < wordSize)
    (hf : acc.free + totalPages (fun l => l.1 == .free) ranges < wordSize)
    (hu : acc.used + totalPages (fun l => l.1 == .used) ranges < wordSize) :
    ranges.foldl countState acc =
      ⟨acc.reserved + totalPages (fun l => l.1 == .reserved) ranges, acc.free + totalPages (fun l =>
        l.1 == .free) ranges, acc.used + totalPages (fun l => l.1 == .used) ranges⟩ := by
  induction ranges generalizing acc with
  | nil => rfl
  | cons t _ ih =>
    obtain ⟨region, state, _⟩ := t
    rw [totalPages_state_cons] at hr hf hu
    rw [totalPages_state_cons, totalPages_state_cons, totalPages_state_cons, List.foldl_cons]
    cases state with
    | reserved =>
      simp at hr hf hu ⊢
      have hsat : saturatingAdd acc.reserved region.pages = acc.reserved + region.pages :=
        saturatingAdd_of_lt (by omega)
      simp only [countState, hsat]
      rw [ih { acc with reserved := acc.reserved + region.pages } (by simp only; omega) hf hu]
      simp only [FrameAllocatorStatistics.mk.injEq, and_true]
      omega
    | free =>
      simp at hr hf hu ⊢
      have hsat : saturatingAdd acc.free region.pages = acc.free + region.pages :=
        saturatingAdd_of_lt (by omega)
      simp only [countState, hsat]
      rw [ih { acc with free := acc.free + region.pages } hr (by simp only; omega) hu]
      simp only [FrameAllocatorStatistics.mk.injEq, and_true, true_and]
      omega
    | used =>
      simp at hr hf hu ⊢
      have hsat : saturatingAdd acc.used region.pages = acc.used + region.pages :=
        saturatingAdd_of_lt (by omega)
      simp only [countState, hsat]
      rw [ih { acc with used := acc.used + region.pages } hr hf (by simp only; omega)]
      simp only [FrameAllocatorStatistics.mk.injEq, true_and]
      omega

lemma foldl_countOwner (ranges : List TrackedRange) (acc : FrameRangeOwner → ℕ)
  (h : ∀ owner, acc owner + totalPages (fun l => l.2 == owner) ranges < wordSize)
  (owner : FrameRangeOwner) :
  ranges.foldl countOwner acc owner = acc owner + totalPages (fun l => l.2 == owner) ranges := by
  induction ranges generalizing acc with
  | nil => rfl
  | cons t _ ih =>
    simp only [totalPages_cons, TrackedRange.label] at h ⊢
    have hsat : saturatingAdd (acc t.owner) t.region.pages = acc t.owner + t.region.pages := by
      have := h t.owner
      simp only [beq_self_eq_true, cond_true] at this
      exact saturatingAdd_of_lt (by omega)
    have hval : ∀ o, countOwner acc t o = acc o + bif t.owner == o then t.region.pages else 0 := by
      intro o
      rw [countOwner, hsat]
      by_cases ho : o = t.owner
      · subst ho
        simp
      · rw [Function.update_of_ne ho]
        simp [beq_eq_false_iff_ne.mpr (Ne.symm ho)]
    rw [List.foldl_cons, ih _ fun o => by have := h o; rw [hval]; omega, hval]
    omega

lemma Represents.statistics (h : Represents a.trackedRanges m) : {f | m.IsReserved f}.encard =
  a.statistics.reserved ∧ {f | m.IsFree f}.encard =
  a.statistics.free ∧ {f | ∃ owner, m.IsUsedBy owner f}.encard = a.statistics.used := by
  have hstat : a.statistics = ⟨totalPages (fun l => l.1 == .reserved) a.trackedRanges,
      totalPages (fun l => l.1 == .free) a.trackedRanges,
      totalPages (fun l => l.1 == .used) a.trackedRanges⟩ := by
    rw [PhysicalFrameAllocator.statistics, foldl_countState] <;>
      simp only [Nat.zero_add] <;> exact h.totalPages_lt _
  have hset : ∀ state, {f | ∃ o, m f = some (state, o)} =
    {f | ∃ x, m f = some x ∧ (x.1 == state) = true} := by
    intro _
    ext f
    simp
  rw [hstat]
  refine ⟨?_, ?_, ?_⟩ <;> exact (congrArg Set.encard (hset _)).trans (h.encard_eq _)

lemma Represents.ownerStatistics (h : Represents a.trackedRanges m) (owner : FrameRangeOwner) :
  {f | ∃ state, m f = some (state, owner)}.encard = a.ownerStatistics owner := by
  have hstat : a.ownerStatistics owner = totalPages (fun l => l.2 == owner) a.trackedRanges := by
    rw [PhysicalFrameAllocator.ownerStatistics, foldl_countOwner, Nat.zero_add]
    intro o
    rw [Nat.zero_add]
    exact h.totalPages_lt _
  have hset : {f | ∃ state, m f = some (state, owner)} =
    {f | ∃ x, m f = some x ∧ (x.2 == owner) = true} := by
    ext f
    simp
  rw [hset, hstat]
  exact h.encard_eq _

lemma FrameMap.isUsedBy_foldl (htr : m.AllowsTrace trace) (hf : m.IsUsedBy owner f)
  (hno : ∀ range o, (FrameCall.free range o, FrameReply.freed true) ∈ trace → ¬ range.Covers f) :
  (trace.foldl replay m).IsUsedBy owner f := by
  induction trace generalizing m with
  | nil => exact hf
  | cons _ _ ih =>
    obtain ⟨hall, htr⟩ := htr
    refine ih htr ?_ fun range o hmem => hno range o (by simp [hmem])
    rw [FrameMap.IsUsedBy, replay.eq_def]
    split
    · -- an allocation only takes free frames
      rename_i range
      rw [if_neg]
      · exact hf
      intro hcov
      obtain ⟨o, ho⟩ := hall.2 f hcov
      rw [hf] at ho
      simp at ho
    · rename_i range o
      rw [if_neg (hno range o (by simp))]
      exact hf
    · exact hf

lemma FrameMap.freed_between
    (htr : m.AllowsTrace
        (pre ++ (.allocate n1 o1, .allocated (some range1)) ::
           (mid ++ (.allocate n2 o2, .allocated (some range2)) :: post))) (h1 : range1.Covers f)
    (h2 : range2.Covers f) :
    ∃ range owner, (FrameCall.free range owner, FrameReply.freed true) ∈ mid ∧ range.Covers f := by
  by_contra hno
  obtain ⟨-, -, htr'⟩ := allowsTrace_append.mp htr
  obtain ⟨hmid, hall, -⟩ := allowsTrace_append.mp htr'
  have hused : (mid.foldl replay ((pre.foldl replay m).replay
    (.allocate n1 o1, .allocated (some range1)))).IsUsedBy o1 f := by
    refine isUsedBy_foldl hmid ?_ fun range o hmem hcov => hno ⟨range, o, hmem, hcov⟩
    exact if_pos h1
  obtain ⟨o, ho⟩ := hall.2 f h2
  rw [hused] at ho
  simp at ho

lemma FrameMap.foldl_replay_eq (htr : m.AllowsTrace trace) (hfree : ¬ m.IsFree f)
  (hused : ∀ owner, ¬ m.IsUsedBy owner f) : (trace.foldl replay m) f = m f := by
  induction trace generalizing m with
  | nil => rfl
  | cons event _ ih =>
    obtain ⟨hall, htr⟩ := htr
    have hstep : m.replay event f = m f := by
      rw [replay.eq_def]
      split
      · exact if_neg fun hcov => hfree (hall.2 f hcov)
      · exact if_neg fun hcov => hused _ (hall f hcov)
      · rfl
    rw [List.foldl_cons, ih htr, hstep]
    · rw [FrameMap.IsFree, hstep]
      exact hfree
    · intro owner
      rw [FrameMap.IsUsedBy, hstep]
      exact hused owner

lemma FrameMap.allocated_ok (hs : m.IsSound) (htr : m.AllowsTrace trace)
  (hmem : (FrameCall.allocate n owner, FrameReply.allocated (some range)) ∈ trace)
  (hf : range.Covers f) : f ≠ 0 ∧ ¬ m.IsReserved f := by
  obtain ⟨_, _, rfl⟩ := List.append_of_mem hmem
  obtain ⟨hpre, hall, -⟩ := allowsTrace_append.mp htr
  -- the frame was free when it was handed out, so it was free or used at the start
  have horig : m.IsFree f ∨ ∃ o, m.IsUsedBy o f := by
    by_contra hno
    rw [not_or, not_exists] at hno
    have heq := foldl_replay_eq hpre hno.1 hno.2
    obtain ⟨o, ho⟩ := hall.2 f hf
    exact hno.1 ⟨o, heq ▸ ho⟩
  refine ⟨?_, ?_⟩
  · rintro rfl
    rcases horig with ⟨o, ho⟩ | ⟨o, ho⟩
    · exact absurd (hs.zero _ _ ho) (by simp)
    · exact absurd (hs.zero _ _ ho) (by simp)
  rintro ⟨_, ho'⟩
  rcases horig with ⟨o, ho⟩ | ⟨o, ho⟩
  · rw [ho'] at ho
    simp at ho
  · rw [FrameMap.IsUsedBy, ho'] at ho
    simp at ho

/-! ### The refinement -/

/-- **The allocator refines the frame map.**  For every allocator reached from page
aligned, pairwise disjoint registrations:

* it encodes the map replayed from its history;
* each further call that does not panic updates the map at exactly the frames of its
  reply, frames it was allowed to take, and leaves the allocator as it is when refused;
* a call panics only for lack of tracking room or for an allocation without an owner;
* two allocations of the history share a frame only if it was freed in between, and no
  allocation contains frame zero or a reserved frame;
* the statistics count the frames of the map. -/
theorem allocator_refines_frameMap {regs : List Registration} (hregs : WellPlaced regs)
    {trace : List (FrameCall × FrameReply)} {a : PhysicalFrameAllocator}
    (h : Reached regs trace a) :
    a.frameMap = trace.foldl replay (registeredMap regs) ∧
    (∀ (call : FrameCall) reply a',
      call.perform a = .ok (reply, a') →
      a'.frameMap = a.frameMap.replay (call, reply) ∧
      a.frameMap.Allows (call, reply) ∧
      (reply.Refused → a' = a)) ∧
    (∀ (call : FrameCall) message,
      call.perform a = .error message →
      (message = capacityExhausted ∧ maxTrackedRanges ≤ a.trackedRanges.length + 1) ∨
      (message = nonFreeOwnerRequired ∧ ∃ frameCount, call = .allocate frameCount .free)) ∧
    (∀ pre n₁ o₁ range₁ mid n₂ o₂ range₂ post,
      trace =
        pre ++ (.allocate n₁ o₁, .allocated (some range₁)) ::
          (mid ++ (.allocate n₂ o₂, .allocated (some range₂)) :: post) →
      ∀ f,
        range₁.Covers f →
        range₂.Covers f →
        ∃ range owner, (FrameCall.free range owner, FrameReply.freed true) ∈ mid ∧ range.Covers f) ∧
    (∀ n owner range,
      (FrameCall.allocate n owner, FrameReply.allocated (some range)) ∈ trace →
      ∀ f, range.Covers f → f ≠ 0 ∧ ¬ (registeredMap regs).IsReserved f) ∧
    ({f | a.frameMap.IsReserved f}.encard = a.statistics.reserved ∧
     {f | a.frameMap.IsFree f}.encard = a.statistics.free ∧
     {f | ∃ owner, a.frameMap.IsUsedBy owner f}.encard = a.statistics.used) ∧
    (∀ owner,
      {f | ∃ state, a.frameMap f = some (state, owner)}.encard = a.ownerStatistics owner) := by
  obtain ⟨hrep, hs, htr⟩ := h.represents hregs
  have hmap := hrep.frameMap_eq
  rw [hmap]
  refine ⟨rfl, fun call reply a' hcall => ?_, fun call message herr => ?_, ?_, ?_,
    hrep.statistics, hrep.ownerStatistics⟩
  · obtain ⟨hall, hrep', -, hrefused⟩ := FrameCall.perform_ok hrep hs hcall
    exact ⟨hrep'.frameMap_eq, hall, hrefused⟩
  · rcases call.perform_spec hrep hs with ⟨_, _, hok, -⟩ | ⟨herr', hcap⟩ | ⟨hown, herr'⟩
    · rw [hok] at herr
      simp at herr
    · rw [herr'] at herr
      exact Or.inl ⟨by simpa [eq_comm] using herr, hcap⟩
    · rw [herr'] at herr
      exact Or.inr ⟨by simpa [eq_comm] using herr, hown⟩
  · rintro _ _ _ _ _ _ _ _ _ rfl f h1 h2
    exact freed_between htr h1 h2
  · intro n _ _ hmem f hf
    exact allocated_ok (isSound_foldl_apply regs isSound_empty) htr hmem hf

lemma fourFrames_wellPlaced : WellPlaced [.add 0 ⟨4, by decide, by decide⟩] :=
  ⟨by decide, List.pairwise_singleton _ _⟩

/-- Three frames, the first of which is handed out. -/
def oneHanded : PhysicalFrameAllocator :=
  ⟨[⟨4096, 3⟩], [⟨⟨4096, 1⟩, .used, .userHeap⟩, ⟨⟨8192, 2⟩, .free, .free⟩]⟩

lemma fourFrames_reached :
    Reached [.add 0 ⟨4, by decide, by decide⟩]
      [(.allocate FrameCount.one .userHeap,
        .allocated (some ⟨⟨4096, by decide⟩, FrameCount.one, by decide⟩))] oneHanded :=
  Reached.called (Reached.registered (a := ⟨[⟨4096, 3⟩], [⟨⟨4096, 3⟩, .free, .free⟩]⟩)
    (by decide)) (by decide +kernel)

/-- One of the four frames is handed out: frame one becomes used, frame zero stays unknown. -/
theorem allocator_refines_frameMap_boot :
    ∃ range a,
      Reached [.add 0 ⟨4, by decide, by decide⟩]
        [(.allocate FrameCount.one .userHeap, .allocated (some range))] a ∧
      range.firstFrame = 1 ∧
      a.frameMap =
        [(FrameCall.allocate FrameCount.one .userHeap, FrameReply.allocated (some range))].foldl
          replay (registeredMap [.add 0 ⟨4, by decide, by decide⟩]) ∧
      a.statistics = ⟨0, 2, 1⟩ := by
  have hrefines := allocator_refines_frameMap fourFrames_wellPlaced fourFrames_reached
  exact ⟨_, _, fourFrames_reached, by decide, hrefines.1, rfl⟩

/-- **First fit and exact frees.**  In every reached allocator, an allocation that does
not panic returns `None` exactly when no run of free frames is long enough, and
otherwise the lowest such run; a free for a real owner returns `true` exactly when
every frame of the range is used by that owner. -/
theorem allocator_first_fit_and_exact_free {regs : List Registration} (hregs : WellPlaced regs)
    {trace : List (FrameCall × FrameReply)} {a : PhysicalFrameAllocator}
    (h : Reached regs trace a) :
    (∀ frameCount owner result a',
      a.allocateFramesFor frameCount owner = .ok (result, a') →
      (result = none ↔ ¬ ∃ s, a.frameMap.FreeRun s frameCount.asU64) ∧
      ∀ range,
        result = some range →
        range.frameCount = frameCount ∧
        a.frameMap.FreeRun range.firstFrame frameCount.asU64 ∧
        ∀ s, a.frameMap.FreeRun s frameCount.asU64 → range.firstFrame ≤ s) ∧
    (∀ range owner success a',
      owner ≠ .free →
      a.freeFramesFor range owner = .ok (success, a') →
      (success = true ↔ ∀ f, range.Covers f → a.frameMap.IsUsedBy owner f)) := by
  obtain ⟨hrep, hs, -⟩ := h.represents hregs
  rw [hrep.frameMap_eq]
  refine ⟨fun frameCount owner result a' hok => ?_, fun range owner success a' howner hok => ?_⟩
  · have howner : owner ≠ .free := by
      rintro rfl
      rw [allocateFramesFor_free] at hok
      simp at hok
    rcases allocateFramesFor_spec hrep hs frameCount howner with
      ⟨hnone, hok'⟩ | ⟨-, -, -, herr⟩ | ⟨range, b, hok', hcount, ⟨hfree, hlow⟩, -⟩
    · rw [hok] at hok'
      obtain ⟨rfl, rfl⟩ : result = none ∧ a' = a := by simpa using hok'
      exact ⟨⟨fun _ ⟨s, hrun⟩ => hnone s hrun, fun _ => rfl⟩, by simp⟩
    · rw [hok] at herr
      simp at herr
    rw [hok] at hok'
    obtain ⟨rfl, rfl⟩ : result = some range ∧ a' = b := by simpa using hok'
    refine ⟨⟨by simp, fun hno => absurd ⟨_, hfree⟩ hno⟩, ?_⟩
    rintro _ ⟨rfl⟩
    exact ⟨hcount, hfree, hlow⟩
  rcases freeFramesFor_spec hrep range howner with
    ⟨hno, hok'⟩ | ⟨hall, ⟨-, herr⟩ | ⟨-, b, hok', -⟩⟩
  · rw [hok] at hok'
    obtain ⟨rfl, rfl⟩ : success = false ∧ a' = a := by simpa using hok'
    refine ⟨by simp, fun hall => absurd ?_ hno⟩
    intro f h1 h2
    exact hall f ⟨h1, h2⟩
  · rw [hok] at herr
    simp at herr
  · rw [hok] at hok'
    obtain ⟨rfl, rfl⟩ : success = true ∧ a' = b := by simpa using hok'
    exact ⟨fun _ f hf => hall f hf.1 hf.2, fun _ => rfl⟩

/-- With the first of three frames handed out, a request for two gets the lowest run, one for three
is refused, and the frame is taken back from its owner only. -/
theorem allocator_first_fit_and_exact_free_boot :
    ∃ a a' a'' : PhysicalFrameAllocator, ∃ handed range : PhysicalFrameRange,
      Reached [.add 0 ⟨4, by decide, by decide⟩]
        [(.allocate FrameCount.one .userHeap, .allocated (some handed))] a ∧
      a.allocateFramesFor ⟨2, by decide, by decide⟩ .userElf = .ok (some range, a') ∧
      range.firstFrame = 2 ∧
      (∀ s, a.frameMap.FreeRun s 2 → 2 ≤ s) ∧
      a.allocateFramesFor ⟨3, by decide, by decide⟩ .userElf = .ok (none, a) ∧
      (¬ ∃ s, a.frameMap.FreeRun s 3) ∧
      a.freeFramesFor handed .userHeap = .ok (true, a'') ∧
      (∀ f, handed.Covers f → a.frameMap.IsUsedBy .userHeap f) ∧
      a.freeFramesFor handed .userElf = .ok (false, a) ∧
      ¬ ∀ f, handed.Covers f → a.frameMap.IsUsedBy .userElf f := by
  obtain ⟨hallocate, hfree⟩ :=
    allocator_first_fit_and_exact_free fourFrames_wellPlaced fourFrames_reached
  have htwo : oneHanded.allocateFramesFor ⟨2, by decide, by decide⟩ .userElf =
      .ok (some ⟨⟨8192, by decide⟩, ⟨2, by decide, by decide⟩, by decide⟩,
        ⟨[⟨4096, 3⟩], [⟨⟨4096, 1⟩, .used, .userHeap⟩, ⟨⟨8192, 2⟩, .used, .userElf⟩]⟩) := by
    decide +kernel
  have hthree : oneHanded.allocateFramesFor ⟨3, by decide, by decide⟩ .userElf =
      .ok (none, oneHanded) := by
    decide +kernel
  have howner : oneHanded.freeFramesFor ⟨⟨4096, by decide⟩, FrameCount.one, by decide⟩ .userHeap =
      .ok (true, ⟨[⟨4096, 3⟩], [⟨⟨4096, 3⟩, .free, .free⟩]⟩) := by
    decide +kernel
  have hother : oneHanded.freeFramesFor ⟨⟨4096, by decide⟩, FrameCount.one, by decide⟩ .userElf =
      .ok (false, oneHanded) := by
    decide +kernel
  refine ⟨_, _, _, _, _, fourFrames_reached, htwo, rfl, ((hallocate _ _ _ _ htwo).2 _ rfl).2.2,
    hthree, (hallocate _ _ _ _ hthree).1.1 rfl, howner,
    (hfree _ _ _ _ (by decide) howner).1 rfl, hother, fun hall => ?_⟩
  cases (hfree _ _ _ _ (by decide) hother).2 hall

lemma Region.IsExact.stop_le_iff {t u : TrackedRange} (ht : t.region.IsExact)
  (hu : u.region.IsExact) :
  t.toRun.stop ≤ u.toRun.start ↔ t.region.start + t.region.pages * pageSize ≤ u.region.start := by
  have h1 := ht.start_eq
  have h2 := hu.start_eq
  rw [Run.stop, TrackedRange.toRun_start, TrackedRange.toRun_start, TrackedRange.toRun_len]
  rw [pageSize] at *
  omega

lemma Represents.pairwise_le (hrep : Represents ranges m) :
  ranges.Pairwise fun t u => t.region.start + t.region.pages * pageSize ≤ u.region.start :=
  (List.pairwise_map.1 hrep.sorted.ordered).imp_of_mem fun {t u} ht hu hle =>
    (Region.IsExact.stop_le_iff (hrep.exact t ht) (hrep.exact u hu)).1 hle

lemma Represents.pairwise_differ (hrep : Represents ranges m) :
  ranges.Pairwise fun t u => t.region.start + t.region.pages * pageSize = u.region.start →
    ¬ (t.state = u.state ∧ t.owner = u.owner) := by
  refine (List.pairwise_map.1 hrep.canonical.separated).imp_of_mem
    fun {t u} ht hu hne htouch hsame => hne ?_ (Prod.ext hsame.1 hsame.2)
  rw [← regionEnd_eq_start_iff (hrep.exact t ht) (hrep.exact u hu),
    (hrep.exact t ht).regionEnd_eq, htouch]

/-- **The tracked ranges are sorted, disjoint, nonempty and maximal.**  In every reached
allocator each range ends, in bytes, before any later one starts; no range is empty; and a
range that touches a later one differs from it in state or owner. -/
theorem trackedRanges_sorted_and_merged {regs : List Registration} (hregs : WellPlaced regs)
    {trace : List (FrameCall × FrameReply)} {a : PhysicalFrameAllocator}
    (h : Reached regs trace a) :
    (a.trackedRanges.Pairwise fun t u => t.region.start + t.region.pages * pageSize ≤
       u.region.start) ∧
    (∀ t ∈ a.trackedRanges, 0 < t.region.pages) ∧
    (a.trackedRanges.Pairwise fun t u => t.region.start + t.region.pages * pageSize = u.region.start
       → ¬ (t.state = u.state ∧ t.owner = u.owner)) ∧
    a.trackedRanges.length ≤ maxTrackedRanges := by
  obtain ⟨hrep, -, -⟩ := h.represents hregs
  exact ⟨hrep.pairwise_le, fun t ht => hrep.sorted.len_pos _ (toRun_mem_runs ht),
    hrep.pairwise_differ, hrep.length_le⟩

/-- After a boot with four frames, of which one is handed out, two touching ranges remain. -/
theorem trackedRanges_sorted_and_merged_boot :
    ∃ a,
      Reached [.add 0 ⟨4, by decide, by decide⟩]
        [(.allocate FrameCount.one .userHeap, .allocated (some ⟨⟨4096, by decide⟩, FrameCount.one,
          by decide⟩))]
        a ∧
      a.trackedRanges.map (fun t => t.region.start) = [4096, 8192] ∧
      ∀ t ∈ a.trackedRanges, 0 < t.region.pages := by
  have hmerged := trackedRanges_sorted_and_merged fourFrames_wellPlaced fourFrames_reached
  exact ⟨_, fourFrames_reached, rfl, hmerged.2.1⟩

/-- An exact range is determined by its run. -/
lemma eq_of_runs_eq (h : ∀ t ∈ ranges, t.region.IsExact) (h' : ∀ t ∈ ranges', t.region.IsExact)
  (hruns : runs ranges = runs ranges') : ranges = ranges' := by
  let back (r : Run FrameLabel) : TrackedRange :=
    ⟨⟨r.start * pageSize, r.len⟩, r.label.1, r.label.2⟩
  have hback : ∀ {ranges : List TrackedRange}, (∀ t ∈ ranges, t.region.IsExact) →
    (runs ranges).map back = ranges := by
    intro ranges h
    rw [runs, List.map_map]
    refine (List.map_congr_left fun t ht => ?_).trans (List.map_id ranges)
    show (⟨⟨t.region.start / pageSize * pageSize, _⟩, _, _⟩ : TrackedRange) = t
    rw [← (h t ht).start_eq]
    rfl
  rw [← hback h, hruns, hback h']

/-- **The frame allocator is independent of its history.**  Whatever was registered, allocated and
freed, the tracked ranges are a function of the map of the frames. -/
theorem allocator_history_independent {regs regs' : List Registration} (hregs : WellPlaced regs)
  (hregs' : WellPlaced regs') (h : Reached regs trace a) (h' : Reached regs' trace' a')
  (hmap : a.frameMap = a'.frameMap) : a.trackedRanges = a'.trackedRanges := by
  obtain ⟨hrep, -, -⟩ := h.represents hregs
  obtain ⟨hrep', -, -⟩ := h'.represents hregs'
  exact eq_of_runs_eq hrep.exact hrep'.exact (hrep.canonical.eq_of_labelAt hrep'.canonical hmap)

/-- Freeing the frame that was handed out gives the table of the boot back. -/
theorem allocator_history_independent_boot :
  ∃ trace a a', trace ≠ [] ∧ Reached [.add 0 ⟨4, by decide, by decide⟩] [] a ∧
    Reached [.add 0 ⟨4, by decide, by decide⟩] trace a' ∧ a.trackedRanges = a'.trackedRanges := by
  have hboot : Reached [.add 0 ⟨4, by decide, by decide⟩] []
    ⟨[⟨4096, 3⟩], [⟨⟨4096, 3⟩, .free, .free⟩]⟩ := .registered (by decide)
  have hfreed := fourFrames_reached.called (show FrameCall.perform _
    (.free ⟨⟨4096, by decide⟩, .one, by decide⟩ .userHeap) =
      .ok (.freed true, ⟨[⟨4096, 3⟩], [⟨⟨4096, 3⟩, .free, .free⟩]⟩) by decide +kernel)
  exact ⟨_, _, _, List.cons_ne_nil _ _, hboot, hfreed,
    allocator_history_independent fourFrames_wellPlaced fourFrames_wellPlaced hboot hfreed rfl⟩

end ManaOS
