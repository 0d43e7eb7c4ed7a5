/-
The loop that maps the pages of a private mapping.

`map_pages` allocates, initializes and maps one page after the other, and unmaps what it has mapped
when a frame cannot be had or the initializer rejects a page.

* `mapPagesLoop_ok`, `exists_mapPagesLoop`: what the loop has done, and when it returns.
-/
import ManaOS.Memory.MappingEffects
import ManaOS.Memory.PageFills

namespace ManaOS
open Checked

/-- What the initializer answers for one page of a mapping of some length. -/
def pageOutcome {σ : Type} (initializePage : PageInitializer σ) (length : ℕ) (captured : σ)
  (pageIndex : ℕ) : Except UserMappingError (List UInt8) × σ :=
  if 0 < min (length - pageIndex * pageSize) pageSize then
    initializePage captured pageIndex
      (List.replicate (min (length - pageIndex * pageSize) pageSize) 0)
  else (.ok [], captured)

/-- The initializer fills the buffer it is given: a slice keeps its length. -/
def PageInitializer.KeepsLength {σ : Type} (initializePage : PageInitializer σ) : Prop :=
  ∀ {captured pageIndex buffer contents captured'}, initializePage captured pageIndex buffer =
  (.ok contents, captured') → contents.length = buffer.length

lemma PageInitializer.KeepsLength.length_le {σ : Type} {initializePage : PageInitializer σ}
  (h : initializePage.KeepsLength) {length pageIndex : ℕ} {captured captured' : σ}
  {contents : List UInt8}
  (hok : pageOutcome initializePage length captured pageIndex = (.ok contents, captured')) :
  contents.length ≤ pageSize := by
  rw [pageOutcome] at hok
  split_ifs at hok
  · rw [h hok, List.length_replicate]
    exact Nat.min_le_right _ _
  · cases hok
    exact Nat.zero_le _

lemma FrameMap.IsSound.unmark {m : FrameMap} (h : m.IsSound) (hf : m.IsFree f) :
  (m.mark f 1 label).mark f 1 (.free, .free) = m := by
  funext g
  by_cases hg : f ≤ g ∧ g < f + 1
  · obtain rfl : g = f := by omega
    rw [FrameMap.mark, if_pos hg, h.isFree_iff.1 hf]
  · rw [FrameMap.mark, if_neg hg, FrameMap.mark, if_neg hg]

namespace UserMappings

/-- The mapping of the remaining pages, as the frame map and the initializer decide it: `demand`
counts the tables of a page, `vacant` says it is not mapped. -/
inductive Fills {σ : Type} (demand : List ℕ → ℕ → ℕ) (vacant : UserPageStart → Prop)
    (start : UserPageStart) (length : ℕ) (initializePage : PageInitializer σ) :
    ℕ → ℕ → List PhysicalFrameStart → FrameMap → σ → Except UserMappingError Unit → Prop
  | filled {mappedPages frames m captured} :
      Fills demand vacant start length initializePage 0 mappedPages frames m captured (.ok ())
  | exhausted {remaining mappedPages frames m captured} (hfull : ∀ f, ¬ m.IsFree f)
      (hfree : m.CanFree frames) :
      Fills demand vacant start length initializePage (remaining + 1) mappedPages frames m captured
        (.error .outOfMemory)
  | rejected {remaining mappedPages frames m captured captured' error f}
      (hfit : m.FirstFit 1 f) (hroom : m.HasRoom f 1)
      (hinit : pageOutcome initializePage length captured mappedPages = (.error error, captured'))
      (hback : (m.mark f 1 (.used, .userMapping)).HasRoom f 1) (hfree : m.CanFree frames) :
      Fills demand vacant start length initializePage (remaining + 1) mappedPages frames m captured
        (.error error)
  | mapped {remaining mappedPages frames m m' captured captured' contents result}
      {page : UserPageStart} {frame : PhysicalFrameStart}
      (hpage : userPageStart start mappedPages = some page)
      (hfit : m.FirstFit 1 (frame.asAddress / pageSize))
      (hroom : m.HasRoom (frame.asAddress / pageSize) 1)
      (hinit : pageOutcome initializePage length captured mappedPages = (.ok contents, captured'))
      (hvacant : vacant page)
      (hserves : (m.mark (frame.asAddress / pageSize) 1 (.used, .userMapping)).Serves
        (List.replicate (demand ((pagesAt start (List.range mappedPages)).map UserPageStart.asU64)
          page.asU64) (1, .pageTable)) m')
      (hrest : Fills demand vacant start length initializePage remaining (mappedPages + 1)
        (frames ++ [frame]) m' captured' result) :
      Fills demand vacant start length initializePage (remaining + 1) mappedPages frames m captured
        result

/-! ### One turn -/

variable {mapper : PageMapper} {space : UserAddressSpace} {memory : Memory} {s : PageState}

lemma freeUnmappedPage_spec {frame : PhysicalFrameStart} (hs : s.Housed)
  (hfit : s.labels.FirstFit 1 (frame.asAddress / pageSize))
  (h : memory.Realizes (s.give frame .userMapping)) :
  (¬ (s.give frame .userMapping).labels.HasRoom (frame.asAddress / pageSize) 1 ∧
    freeUnmappedPage memory frame = .error capacityExhausted) ∨
  (s.give frame .userMapping).labels.HasRoom (frame.asAddress / pageSize) 1 ∧
    ∃ allocator, freeUnmappedPage memory frame = .ok { memory with allocator } ∧
      Memory.Realizes { memory with allocator } s := by
  have hlab : (s.give frame .userMapping).labels (frame.asAddress / pageSize) =
    some (.used, .userMapping) := by rw [PageState.give_labels, if_pos rfl]
  have hfits := h.represents.frame_fits hlab
  rw [frame.div_mul] at hfits
  have hcall : freeUnmappedPage memory frame =
    (memory.allocator.freeFramesFor (frameRange frame hfits) .userMapping).bind fun p =>
      (require p.1 "unmapped private user mapping page must be owned by user mappings").bind
        fun _ => .ok { memory with allocator := p.2 } := by
    rw [freeUnmappedPage, oneFrameRange_eq hfits, ok_bind, Memory.freeFramesFor]
    cases memory.allocator.freeFramesFor (frameRange frame hfits) .userMapping <;> rfl
  rw [hcall]
  rcases PhysicalFrameAllocator.freeFrame_spec h.represents h.housed.sound hfits .userMapping with
    ⟨hne, -⟩ | ⟨-, ⟨hroom, herr⟩ | ⟨hroom, allocator, hok, hrep⟩⟩
  · exact absurd hlab hne
  · exact .inl ⟨hroom, by rw [herr]; rfl⟩
  · refine .inr ⟨hroom, allocator, by rw [hok]; rfl, h.tables_eq, ?_, hs⟩
    rwa [PageState.give, hs.sound.unmark hfit.isFree] at hrep

lemma unmapPrefix_spec (hwalk : mapper.Walks) (h : memory.Realizes s)
    (hroot : s.IsRoot space.root) {start : UserPageStart} (hbase : userMappingBase ≤ start.asU64)
    (hend : start.asU64 + count * pageSize ≤ userMappingEnd)
    (howned : ∀ page ∈ pagesAt start (List.range count), s.Owned space.root .userMapping page) :
    (¬ s.labels.CanFree (s.tables.framesOf space.root (pagesAt start (List.range count))) ∧
     unmapPrefix mapper space memory start count = .error capacityExhausted) ∨
    s.labels.CanFree (s.tables.framesOf space.root (pagesAt start (List.range count))) ∧
    ∃ s' memory',
      unmapPrefix mapper space memory start count = .ok memory' ∧
      Cleared s space.root (pagesAt start (List.range count)) s' ∧
      memory'.Realizes s' ∧
      memory.OnlyMapped memory' := by
  rw [unmapPrefix, unmapIndices_eq fun index hidx => exists_userPageStart ?_]
  · exact UserAddressSpace.unmapEach_spec hwalk _ (nodup_pagesAt _ List.nodup_range)
      (fun page hpage => UserMappingRange.inWindow_of_region
        (Nat.le_trans hbase (mem_pagesAt_range.1 hpage).1)) h hroot howned
  have hlt : index * pageSize < count * pageSize :=
    Nat.mul_lt_mul_of_pos_right (List.mem_range.1 hidx) (by decide)
  have hsp : userMappingEnd < userSpaceEnd := by decide
  omega

section Turn
variable {σ : Type} {start page : UserPageStart} {length remaining mappedPages : ℕ}
  {flags : PageTableFlags} {initializePage : PageInitializer σ} {captured captured' : σ}
  (hpage : userPageStart start mappedPages = some page)
include hpage in
lemma pageInitializeLength_eq : pageInitializeLength length mappedPages =
  some (min (length - mappedPages * pageSize) pageSize) := by
  have hlt := page.asU64_lt
  rw [userPageStart_eq_some.1 hpage] at hlt
  have hword : userSpaceEnd ≤ wordSize := by decide
  rw [pageInitializeLength, checkedMul_eq_some.2 ⟨by omega, rfl⟩]
  rfl

include hpage in
lemma mapPagesLoop_exhausted (hfrm : memory.allocateFrameFor .userMapping = .ok (none, memory)) :
  mapPagesLoop mapper space start length flags initializePage (remaining + 1) mappedPages memory
      captured = do
    let memory ← unmapPrefix mapper space memory start mappedPages
    return (.error .outOfMemory, memory, captured) := by
  rw [mapPagesLoop, hpage]
  simp only [hfrm, ok_bind]

variable {memory1 : Memory} {frame : PhysicalFrameStart}
  (hfrm : memory.allocateFrameFor .userMapping = .ok (some frame, memory1))
include hpage hfrm in
lemma mapPagesLoop_rejected
  (hinit : pageOutcome initializePage length captured mappedPages = (.error error, captured')) :
  mapPagesLoop mapper space start length flags initializePage (remaining + 1) mappedPages memory
      captured = do
    let memory ← freeUnmappedPage (memory1.zeroBytes frame.asAddress pageSize) frame
    let memory ← unmapPrefix mapper space memory start mappedPages
    return (.error error, memory, captured') := by
  rw [pageOutcome] at hinit
  rw [mapPagesLoop, hpage]
  simp only [hfrm, ok_bind, pageInitializeLength_eq hpage, hinit]

include hpage hfrm in
lemma mapPagesLoop_accepted
    (hinit : pageOutcome initializePage length captured mappedPages = (.ok contents, captured')) :
    mapPagesLoop mapper space start length flags initializePage (remaining + 1) mappedPages memory
      captured =
      (space.mapUserPage mapper ((memory1.zeroBytes frame.asAddress pageSize).writeBytes
         frame.asAddress contents) page frame flags >>=
       fun memory => mapPagesLoop mapper space start length flags initializePage remaining
         (mappedPages + 1) memory captured') := by
  rw [pageOutcome] at hinit
  rw [mapPagesLoop, hpage]
  simp only [hfrm, ok_bind, pageInitializeLength_eq hpage, hinit]

end Turn

/-! ### The whole loop -/

lemma pagesAt_range_succ {mappedPages : ℕ} (hpage : userPageStart start mappedPages = some page) :
  pagesAt start (List.range (mappedPages + 1)) =
    pagesAt start (List.range mappedPages) ++ [page] := by
  rw [pagesAt, List.range_succ, List.filterMap_append, List.filterMap_cons, hpage]
  rfl

/-- What the loop leaves when it returns. -/
structure FillEnd (s₀ : PageState) (root : ℕ) (pages : List UserPageStart) (memory : Memory)
    (result : Except UserMappingError Unit) (memory' : Memory) (s' : PageState) : Prop where
  realizes : memory'.Realizes s'
  memory_eq : memory' = { memory with
    tables := memory'.tables
    allocator := memory'.allocator
    bytes := memory'.bytes }
  table_kept : ∀ {n r path}, path.length < 4 → s₀.place n = some (r, path) →
    s'.place n = some (r, path)
  steps : ∀ pending, Relation.ReflTransGen (SpaceStep root) (s₀, pending) (s', pending)
  filled : result = .ok () → ∃ frames, Filling s₀ root .userMapping pages frames s'
  restored : ∀ error, result = .error error → Restored s₀ .userMapping s'

lemma FillEnd.of_rollback (hfill : Filling s₀ root .userMapping pages frames s)
  (hclear : Cleared s root pages s') {memory' : Memory} (h' : memory'.Realizes s')
  (heq : memory' = { memory with
    tables := memory'.tables
    allocator := memory'.allocator
    bytes := memory'.bytes }) (pages' : List UserPageStart) (error : UserMappingError) :
  FillEnd s₀ root pages' memory (.error error) memory' s' :=
  ⟨h', heq, fun hlen hn => (hclear.table_iff hlen).2 (hfill.kept hn),
    fun pending => (hfill.steps pending).trans (hclear.steps pending),
    fun hok => (by cases hok), fun _ _ => hfill.rolledBack hclear⟩

lemma userMapping_mem : FrameRangeOwner.userMapping ∈ userDataOwners := by decide

lemma unmapPrefix_of_filling {s₀ : PageState} (hwalk : mapper.Walks)
    (hroot : s₀.IsRoot space.root) {start : UserPageStart} (hbase : userMappingBase ≤ start.asU64)
    (hend : start.asU64 + count * pageSize ≤ userMappingEnd)
    (hfill : Filling s₀ space.root .userMapping (pagesAt start (List.range count)) frames s)
    (h : memory.Realizes s) :
    (¬ s.labels.CanFree frames ∧
     unmapPrefix mapper space memory start count = .error capacityExhausted) ∨
    s.labels.CanFree frames ∧
    ∃ s' memory',
      unmapPrefix mapper space memory start count = .ok memory' ∧
      Cleared s space.root (pagesAt start (List.range count)) s' ∧
      memory'.Realizes s' ∧
      memory.OnlyMapped memory' := by
  have hspec := unmapPrefix_spec hwalk h (hfill.kept hroot) hbase hend hfill.owned
  rwa [hfill.frames_eq] at hspec

section Loop
variable {σ : Type} {s₀ : PageState} {start : UserPageStart} {length remaining mappedPages : ℕ}
  {flags : PageTableFlags} {initializePage : PageInitializer σ} {captured captured' : σ}
  {frames : List PhysicalFrameStart} {result : Except UserMappingError Unit}
  {demand : List ℕ → ℕ → ℕ} {vacant : UserPageStart → Prop}
  (hwalk : mapper.Walks) (hpres : flags.present = true) (hhuge : flags.hugePage = false)
  (hroot : s₀.place space.level4Frame.asAddress = some (space.level4Frame.asAddress, []))
  (hbase : userMappingBase ≤ start.asU64)
  (hdemand : ∀ earlier {page}, InWindow page →
    demand earlier page = s₀.tables.newTables space.level4Frame.asAddress earlier page)
  (hvacant : ∀ {page : UserPageStart}, userMappingBase ≤ page.asU64 →
    (vacant page ↔ s₀.tables.leaf space.level4Frame.asAddress page.asU64 = none))

lemma inWindow_of_mem {start : UserPageStart}
  (hbase : userMappingBase ≤ start.asU64) (hpage : page ∈ pagesAt start (List.range count)) :
  InWindow page.asU64 :=
  UserMappingRange.inWindow_of_region (Nat.le_trans hbase (mem_pagesAt_range.1 hpage).1)

lemma exists_turnPage {start : UserPageStart} (hbase : userMappingBase ≤ start.asU64)
  (hend : start.asU64 + (mappedPages + (remaining + 1)) * pageSize ≤ userMappingEnd) :
  ∃ page, userPageStart start mappedPages = some page ∧ userMappingBase ≤ page.asU64 ∧
    InWindow page.asU64 ∧ start.asU64 + mappedPages * pageSize ≤ userMappingEnd := by
  have hsp : userMappingEnd < userSpaceEnd := by decide
  have hle : mappedPages * pageSize ≤ (mappedPages + (remaining + 1)) * pageSize :=
    Nat.mul_le_mul_right _ (Nat.le_add_right _ _)
  have hbelow : start.asU64 + mappedPages * pageSize ≤ userMappingEnd := by omega
  obtain ⟨page, hpage⟩ := exists_userPageStart (Nat.lt_of_le_of_lt hbelow hsp)
  have hlow : userMappingBase ≤ page.asU64 := by
    rw [userPageStart_eq_some.1 hpage]
    omega
  exact ⟨page, hpage, hlow, UserMappingRange.inWindow_of_region hlow, hbelow⟩

include hwalk hpres hhuge hroot hbase hdemand hvacant in
/-- **The loop, when it returns.** -/
lemma mapPagesLoop_ok {memory' : Memory}
    (hend : start.asU64 + (mappedPages + remaining) * pageSize ≤ userMappingEnd)
    (h : memory.Realizes s)
    (hfill : Filling s₀ space.root .userMapping (pagesAt start (List.range mappedPages)) frames s)
    (hok : mapPagesLoop mapper space start length flags initializePage remaining mappedPages memory
        captured =
        .ok (result, memory', captured')) :
    Fills demand vacant start length initializePage remaining mappedPages frames s.labels captured
      result ∧
    (initializePage.KeepsLength → KeepsBytes s₀ memory memory') ∧
    ∃ s',
      FillEnd s₀ space.root (pagesAt start (List.range (mappedPages + remaining))) memory result
        memory' s' := by
  induction remaining generalizing mappedPages memory s frames captured with
  | zero =>
    cases hok
    exact ⟨.filled, fun _ => .of_eq rfl, s, h, rfl, fun _ hn => hfill.kept hn, hfill.steps,
      fun _ => ⟨frames, hfill⟩, fun _ herr => by cases herr⟩
  | succ remaining ih =>
    obtain ⟨_, hpage, hlow, hwin, hbelow⟩ := exists_turnPage hbase hend
    have hroot' := hfill.kept hroot
    rcases Memory.allocateFrameFor_spec h userMapping_mem with
      ⟨hfull, hfrm⟩ | ⟨f, -, -, hfrm⟩ | ⟨frame, allocator, hfrm, hfit, hroom, h1⟩
    · rw [mapPagesLoop_exhausted hpage hfrm] at hok
      rcases unmapPrefix_of_filling hwalk hroot hbase hbelow hfill h with
        ⟨-, herr⟩ | ⟨hfree, s', memory2, hunmap, hclear, h', heq⟩
      · rw [herr] at hok
        cases hok
      rw [hunmap] at hok
      cases hok
      exact ⟨.exhausted hfull hfree, fun _ => .of_eq (by rw [heq]), s',
        .of_rollback hfill hclear h' (by rw [heq]) _ _⟩
    · rw [mapPagesLoop, hpage] at hok
      simp only [hfrm, error_bind] at hok
      cases hok
    obtain ⟨outcome, hinit⟩ : ∃ outcome,
      pageOutcome initializePage length captured mappedPages = outcome := ⟨_, rfl⟩
    obtain ⟨_ | _, _⟩ := outcome
    · rw [mapPagesLoop_rejected hpage hfrm hinit] at hok
      rcases freeUnmappedPage_spec h.housed hfit (h1.zeroBytes _ _) with
        ⟨-, herr⟩ | ⟨hback, allocator2, hgive, h2⟩
      · rw [herr] at hok
        cases hok
      rw [hgive, ok_bind] at hok
      rcases unmapPrefix_of_filling hwalk hroot hbase hbelow hfill h2 with
        ⟨-, herr⟩ | ⟨hfree, s', memory2, hunmap, hclear, h', heq⟩
      · rw [herr] at hok
        cases hok
      rw [hunmap] at hok
      cases hok
      refine ⟨.rejected hfit hroom hinit hback hfree, fun _ => ?_, s',
        .of_rollback hfill hclear h' (by rw [heq]; rfl) _ _⟩
      have hbytes : KeepsBytes s memory memory' :=
        .of_frame h.housed hfit.isFree fun address hout => by
          rw [heq]
          exact Memory.zeroBytes_of_out _ hout
      exact hbytes.mono hfill.kept
    rw [mapPagesLoop_accepted hpage hfrm hinit, bind_eq_ok] at hok
    obtain ⟨memory2, hmap, hok⟩ := hok
    obtain ⟨hleaf, _, hfill2, h2, heq2, _, -⟩ := hfill.mapUserPage_ok hwalk h
      ((h1.zeroBytes _ _).writeBytes _ _) hroot userMapping_mem
      (fun _ => inWindow_of_mem hbase) hwin hfit hpres hhuge hmap
    rw [← pagesAt_range_succ hpage] at hfill2
    have hcnt : mappedPages + 1 + remaining = mappedPages + (remaining + 1) := by omega
    rw [← hcnt] at hend ⊢
    obtain ⟨hfills, hbytes, s', hdone⟩ := ih hend h2 hfill2 hok
    refine ⟨.mapped hpage hfit hroom hinit ?_ ?_ hfills, fun hlen => ?_, s', ?_⟩
    · exact (hvacant hlow).2 hleaf
    · rwa [hdemand _ hwin]
    · have hwrite : KeepsBytes s memory memory2 :=
        .of_frame h.housed hfit.isFree fun address hout => by
          have hcont := hlen.length_le hinit
          rw [heq2]
          exact (Memory.writeBytes_of_out _ (by omega)).trans
            (Memory.zeroBytes_of_out _ hout)
      exact (hwrite.mono hfill.kept).trans (hbytes hlen)
    · exact ⟨hdone.realizes, by rw [hdone.memory_eq, heq2]; rfl, hdone.table_kept,
        hdone.steps, hdone.filled, hdone.restored⟩

include hwalk hpres hhuge hroot hbase hdemand hvacant in
/-- **The loop returns** what the frame map and the initializer decide. -/
lemma exists_mapPagesLoop
    (hend : start.asU64 + (mappedPages + remaining) * pageSize ≤ userMappingEnd)
    (h : memory.Realizes s)
    (hfill : Filling s₀ space.root .userMapping (pagesAt start (List.range mappedPages)) frames s)
    (hfills :
      Fills demand vacant start length initializePage remaining mappedPages frames s.labels captured
        result) :
    ∃ memory' captured',
      mapPagesLoop mapper space start length flags initializePage remaining mappedPages memory
        captured =
        .ok (result, memory', captured') := by
  induction remaining generalizing mappedPages memory s frames captured with
  | zero =>
    cases hfills
    exact ⟨memory, captured, rfl⟩
  | succ remaining ih =>
    obtain ⟨page, hpage, hlow, hwin, hbelow⟩ := exists_turnPage hbase hend
    cases hfills with
    | exhausted hfull hfree =>
      rcases Memory.allocateFrameFor_spec h userMapping_mem with
        ⟨-, hfrm⟩ | ⟨f, hfit, -⟩ | ⟨frame, -, -, hfit, -⟩
      · rcases unmapPrefix_of_filling hwalk hroot hbase hbelow hfill h with
          ⟨hnot, -⟩ | ⟨-, s', memory2, hunmap, -⟩
        · exact absurd hfree hnot
        · exact ⟨memory2, captured, by rw [mapPagesLoop_exhausted hpage hfrm, hunmap]; rfl⟩
      · exact absurd hfit.isFree (hfull f)
      · exact absurd hfit.isFree (hfull _)
    | @rejected _ _ _ _ _ captured1 _ f hfit hroom hinit hback hfree =>
      obtain ⟨frame, allocator, hfrm, rfl, h1⟩ :=
        Memory.exists_allocateFrameFor h userMapping_mem hfit hroom
      rcases freeUnmappedPage_spec h.housed hfit (h1.zeroBytes _ _) with
        ⟨hnot, -⟩ | ⟨-, allocator2, hgive, h2⟩
      · exact absurd hback hnot
      rcases unmapPrefix_of_filling hwalk hroot hbase hbelow hfill h2 with
        ⟨hnot, -⟩ | ⟨-, s', memory2, hunmap, -⟩
      · exact absurd hfree hnot
      · refine ⟨memory2, captured1, ?_⟩
        rw [mapPagesLoop_rejected hpage hfrm hinit, hgive, ok_bind, hunmap]
        rfl
    | @mapped _ _ _ _ m' _ captured1 contents _ page' frame hpage' hfit hroom hinit hfresh
        hserv hrest =>
        obtain rfl := Option.some.inj (hpage.symm.trans hpage')
        obtain ⟨frame', _, hfrm, hsame, h1⟩ :=
          Memory.exists_allocateFrameFor h userMapping_mem hfit hroom
        obtain rfl := PhysicalFrameStart.eq_of_div_eq hsame
        have hnew : page ∉ pagesAt start (List.range mappedPages) := fun hmem => by
          have hlt := (mem_pagesAt_range.1 hmem).2
          rw [userPageStart_eq_some.1 hpage] at hlt
          exact Nat.lt_irrefl _ hlt
        rw [hdemand _ hwin] at hserv
        obtain ⟨_, hmap⟩ := hfill.exists_mapUserPage hwalk
          ((h1.zeroBytes frame'.asAddress pageSize).writeBytes frame'.asAddress contents) hroot
          hwin hpres hhuge hnew
          ((hvacant hlow).1 hfresh) hserv
        obtain ⟨-, _, hfill2, h2, -, hserv2, -⟩ := hfill.mapUserPage_ok hwalk h
          ((h1.zeroBytes _ _).writeBytes _ _) hroot userMapping_mem
          (fun _ => inWindow_of_mem hbase) hwin hfit hpres hhuge hmap
        obtain rfl := hserv.unique hserv2
        rw [← pagesAt_range_succ hpage] at hfill2
        have hcnt : mappedPages + 1 + remaining = mappedPages + (remaining + 1) := by omega
        rw [← hcnt] at hend
        obtain ⟨memory', captured', hok⟩ := ih hend h2 hfill2 hrest
        exact ⟨memory', captured', by
          rw [mapPagesLoop_accepted hpage hfrm hinit, hmap, ok_bind, hok]⟩

end Loop
end UserMappings
end ManaOS
