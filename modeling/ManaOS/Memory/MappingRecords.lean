/-
The record table of the private user mappings.

The 32 slots hold records in no order.  Read as a relation `Holds` between pages and sources they
are a set of disjoint intervals.

* `Lawful`: the records lie in the region, apart from each other;
* `Trimmed`: the pages of a range leave the records.
-/
import ManaOS.Memory.UserMapping

namespace ManaOS
open Checked List

/-! ### Ranges -/

def UserMapping.stop (mapping : UserMapping) : ℕ := mapping.start.asU64 + mapping.pageCount.byteLen

def UserMapping.Covers (mapping : UserMapping) (page : ℕ) : Prop :=
  mapping.start.asU64 ≤ page ∧ page < mapping.stop

/-- The record and the range have a page in common. -/
def UserMapping.Meets (mapping : UserMapping) (range : UserMappingRange) : Prop :=
  range.start.asU64 < mapping.stop ∧ mapping.start.asU64 < range.endExclusive.asU64

instance (mapping : UserMapping) (range : UserMappingRange) : Decidable (mapping.Meets range) :=
  inferInstanceAs (Decidable (_ ∧ _))

def UserMappingRange.Covers (range : UserMappingRange) (page : ℕ) : Prop :=
  range.start.asU64 ≤ page ∧ page < range.endExclusive.asU64

instance (mapping : UserMapping) (page : ℕ) : Decidable (mapping.Covers page) :=
  inferInstanceAs (Decidable (_ ∧ _))

instance (range : UserMappingRange) (page : ℕ) : Decidable (range.Covers page) :=
  inferInstanceAs (Decidable (_ ∧ _))

lemma PageCount.byteLen_pos (count : PageCount) : 0 < count.byteLen :=
  Nat.mul_pos count.pos (by decide)

lemma PageCount.byteLen_mod (count : PageCount) : count.byteLen % pageSize = 0 :=
  Nat.mul_mod_left _ _

lemma UserMapping.start_lt_stop (mapping : UserMapping) : mapping.start.asU64 < mapping.stop :=
  Nat.lt_add_of_pos_right mapping.pageCount.byteLen_pos

lemma UserMapping.stop_mod (mapping : UserMapping) : mapping.stop % pageSize = 0 := by
  have hst := mapping.start.asU64_mod
  have hcnt := mapping.pageCount.byteLen_mod
  rw [stop]
  rw [pageSize] at *
  omega

lemma UserMappingRange.start_lt_end (range : UserMappingRange) :
  range.start.asU64 < range.endExclusive.asU64 := by
  rw [range.end_eq]
  exact Nat.lt_add_of_pos_right range.pageCount.byteLen_pos

lemma UserMappingRange.ext_iff_start {range range' : UserMappingRange}
  (hst : range.start = range'.start) (hcnt : range.pageCount = range'.pageCount) :
  range = range' := by
  obtain ⟨start, stop, count, hend, _, _⟩ := range
  obtain ⟨start', stop', count', hend', _, _⟩ := range'
  obtain rfl : start = start' := hst
  obtain rfl : count = count' := hcnt
  obtain rfl : stop = stop' := UserPageStart.eq_of_asU64 (hend.trans hend'.symm)
  rfl

variable {count : PageCount}

lemma UserMappingRange.new_eq_some {start : UserPageStart} {range : UserMappingRange} :
  new start count = some range ↔ range.start = start ∧ range.pageCount = count := by
  constructor
  · intro h
    rw [new] at h
    split at h
    · cases h
    · split at h <;> cases h
      exact ⟨rfl, rfl⟩
  rintro ⟨rfl, rfl⟩
  rw [new]
  split
  next hnone =>
    rw [UserPageStart.checkedAdd_eq_some.2 range.end_eq] at hnone
    cases hnone
  next _ hsome =>
    have hstop := UserPageStart.checkedAdd_eq_some.1 hsome
    rw [← range.end_eq] at hstop
    have hbase := range.base_le
    have hend := range.le_end
    rw [dif_neg (by omega)]
    exact congrArg some (ext_iff_start rfl rfl)

lemma UserMappingRange.exists_new {start : UserPageStart} (hbase : userMappingBase ≤ start.asU64)
  (hend : start.asU64 + count.byteLen ≤ userMappingEnd) :
  ∃ range, new start count = some range := by
  have hlt : start.asU64 + count.byteLen < userSpaceEnd := Nat.lt_of_le_of_lt hend (by decide)
  have halign : (start.asU64 + count.byteLen) % pageSize = 0 := by
    rw [PageCount.byteLen, Nat.add_mul_mod_self_right]
    exact start.aligned
  have hne : start.asU64 + count.byteLen ≠ 0 := by
    have hst : start.asU64 ≠ 0 := start.asAddress.ne_zero
    omega
  obtain ⟨stop, hstop⟩ := UserPageStart.exists_asU64 hne hlt halign
  exact ⟨⟨start, stop, count, hstop, hbase, by rw [hstop]; exact hend⟩, new_eq_some.2 ⟨rfl, rfl⟩⟩

lemma UserMappingRange.fromByteLen_eq_some {start : UserPageStart} {range : UserMappingRange} :
  fromByteLen start count.byteLen = some range ↔ new start count = some range := by
  have hpos := count.byteLen_pos
  have hmod := count.byteLen_mod
  have hdiv : count.byteLen / pageSize = count.asU64 := Nat.mul_div_cancel _ (by decide)
  have hnew : PageCount.new count.asU64 = some count := by
    have hle := count.le
    have hlt := count.pos
    exact dif_neg (by omega)
  rw [fromByteLen, if_neg (by omega), hdiv, hnew, Option.bind_some]

lemma exists_mappingPageCount (ha : a % pageSize = 0) (hb : b % pageSize = 0)
  (hlt : a < b) (hend : b ≤ userSpaceEnd) :
  ∃ count, mappingPageCount ((b - a) / pageSize) = .ok count ∧ a + count.byteLen = b := by
  have hmod : (b - a) % pageSize = 0 := by
    rw [pageSize] at *
    omega
  have hpos : 0 < (b - a) / pageSize := by
    rw [pageSize] at *
    omega
  have hle : (b - a) / pageSize ≤ wordMax / pageSize := by
    have hword : userSpaceEnd ≤ wordMax := by decide
    exact Nat.div_le_div_right (by omega)
  refine ⟨⟨(b - a) / pageSize, hpos, hle⟩, expect_eq_ok.2 (dif_neg (by omega)), ?_⟩
  have hlen : (b - a) / pageSize * pageSize = b - a :=
    Nat.div_mul_cancel (Nat.dvd_of_mod_eq_zero hmod)
  rw [PageCount.byteLen, hlen]
  omega

lemma pages_eq_zero_iff (ha : a % pageSize = 0) (hb : b % pageSize = 0) (hle : a ≤ b) :
  (b - a) / pageSize = 0 ↔ a = b := by
  rw [pageSize] at *
  omega

namespace UserMappings

/-! ### Slots -/

/-- The record in a slot. -/
def slot (mappings : UserMappings) (index : ℕ) : Option UserMapping := mappings.records[index]?.join

/-- The page belongs to a record with the source. -/
def Holds (mappings : UserMappings) (page : ℕ) (source : UserMappingSource) : Prop :=
  ∃ index record, mappings.slot index = some record ∧ record.Covers page ∧ record.source = source

/-- The records lie in the mapping region, and apart from each other. -/
structure Lawful (mappings : UserMappings) : Prop where
  base_le : ∀ {index record}, mappings.slot index = some record →
    userMappingBase ≤ record.start.asU64
  le_end : ∀ {index record}, mappings.slot index = some record → record.stop ≤ userMappingEnd
  apart : ∀ {i j record record'}, i ≠ j → mappings.slot i = some record → mappings.slot j =
    some record' → record.stop ≤ record'.start.asU64 ∨ record'.stop ≤ record.start.asU64

variable {mappings : UserMappings} {index : ℕ} {record : UserMapping}

lemma slot_eq_some : mappings.slot index = some record ↔
  mappings.records[index]? = some (some record) := by
  rw [slot, Option.join_eq_some_iff]

lemma lt_of_slot (h : mappings.slot index = some record) : index < maxUserMappings := by
  rw [← mappings.length_records]
  exact (List.getElem?_eq_some_iff.1 (slot_eq_some.1 h)).1

lemma mem_records_iff : some record ∈ mappings.records ↔
  ∃ index, mappings.slot index = some record := by
  rw [mem_iff_getElem?]
  exact exists_congr fun _ => slot_eq_some.symm

@[simp] lemma slot_new : UserMappings.new.slot index = none := by
  rw [slot, new]
  simp only [getElem?_replicate]
  split <;> rfl

lemma lawful_new : UserMappings.new.Lawful := by
  refine ⟨fun h => ?_, fun h => ?_, fun _ h => ?_⟩ <;> rw [slot_new] at h <;> cases h

variable {source : UserMappingSource} {page : ℕ}

lemma not_holds_new : ¬ UserMappings.new.Holds page source := by
  rintro ⟨_, _, h, -⟩
  rw [slot_new] at h
  cases h

lemma slot_setRecord (mappings : UserMappings) (h : index < maxUserMappings)
  (record : Option UserMapping) (j : ℕ) :
  (mappings.setRecord index record).slot j = if j = index then record else mappings.slot j := by
  have hlen : index < mappings.records.length := by rwa [mappings.length_records]
  rw [slot, setRecord, slot]
  by_cases heq : j = index
  · rw [if_pos heq, heq, getElem?_set_self hlen]
    rfl
  · rw [if_neg heq, getElem?_set_ne (Ne.symm heq)]

lemma Lawful.exists_range (h : mappings.Lawful) (hslot : mappings.slot index = some record) :
  ∃ range, record.range = some range ∧ range.start = record.start ∧
    range.endExclusive.asU64 = record.stop := by
  obtain ⟨range, hrg⟩ := UserMappingRange.exists_new (h.base_le hslot) (h.le_end hslot)
  obtain ⟨hst, hcnt⟩ := UserMappingRange.new_eq_some.1 hrg
  exact ⟨range, hrg, hst, by rw [range.end_eq, hst, hcnt]; rfl⟩

lemma Lawful.holds_iff_of_covers (h : mappings.Lawful) (hslot : mappings.slot index = some record)
  (hpage : record.Covers page) : mappings.Holds page source ↔ record.source = source := by
  refine ⟨?_, fun hsrc => ⟨index, record, hslot, hpage, hsrc⟩⟩
  rintro ⟨j, _, hslot', hpage', rfl⟩
  by_cases hne : index = j
  · rw [hne, hslot'] at hslot
    rw [Option.some.inj hslot]
  have hapart := h.apart hne hslot hslot'
  obtain ⟨_, _⟩ := hpage
  obtain ⟨_, _⟩ := hpage'
  omega

lemma Lawful.holds_setRecord (h : mappings.Lawful) (hslot : mappings.slot index =
  some record) : (mappings.setRecord index piece).Holds page source ↔ (∃ r, piece = some r ∧
  r.Covers page ∧ r.source = source) ∨ mappings.Holds page source ∧ ¬ record.Covers page := by
  have hslots := mappings.slot_setRecord (lt_of_slot hslot) piece
  constructor
  · rintro ⟨j, r, hr, hpage, hsrc⟩
    rw [hslots] at hr
    split_ifs at hr with hj
    · exact .inl ⟨r, hr, hpage, hsrc⟩
    refine .inr ⟨⟨j, r, hr, hpage, hsrc⟩, fun hpage' => ?_⟩
    have hapart := h.apart hj hr hslot
    obtain ⟨_, _⟩ := hpage
    obtain ⟨_, _⟩ := hpage'
    omega
  rintro (⟨r, hr, hpage, hsrc⟩ | ⟨⟨j, r, hr, hpage, hsrc⟩, hnot⟩)
  · exact ⟨index, r, by rw [hslots, if_pos rfl, hr], hpage, hsrc⟩
  refine ⟨j, r, ?_, hpage, hsrc⟩
  rw [hslots, if_neg, hr]
  rintro rfl
  rw [hslot, Option.some.injEq] at hr
  exact hnot (hr ▸ hpage)

lemma holds_fill (hlt : index < maxUserMappings) (hslot : mappings.slot index = none) :
  (mappings.setRecord index (some record)).Holds page source ↔
    record.Covers page ∧ record.source = source ∨ mappings.Holds page source := by
  have hslots := mappings.slot_setRecord hlt (some record)
  constructor
  · rintro ⟨j, r, hr, hpage, hsrc⟩
    rw [hslots] at hr
    split_ifs at hr
    · cases hr
      exact .inl ⟨hpage, hsrc⟩
    · exact .inr ⟨j, r, hr, hpage, hsrc⟩
  rintro (⟨hpage, hsrc⟩ | ⟨j, r, hr, hpage, hsrc⟩)
  · exact ⟨index, record, by rw [hslots, if_pos rfl], hpage, hsrc⟩
  refine ⟨j, r, ?_, hpage, hsrc⟩
  rw [hslots, if_neg, hr]
  rintro rfl
  rw [hslot] at hr
  cases hr

lemma Lawful.setRecord (h : mappings.Lawful) (hlt : index < maxUserMappings)
  (hreg : ∀ r, piece = some r → userMappingBase ≤ r.start.asU64 ∧ r.stop ≤ userMappingEnd)
  (hapart : ∀ r j r', piece = some r → j ≠ index → mappings.slot j = some r' →
    r.stop ≤ r'.start.asU64 ∨ r'.stop ≤ r.start.asU64) :
  (mappings.setRecord index piece).Lawful := by
  have hslots := mappings.slot_setRecord hlt piece
  refine ⟨fun {j r} hr => ?_, fun {j r} hr => ?_, fun {i j r r'} hne hr hr' => ?_⟩
  · rw [hslots] at hr
    split_ifs at hr
    exacts [(hreg r hr).1, h.base_le hr]
  · rw [hslots] at hr
    split_ifs at hr
    exacts [(hreg r hr).2, h.le_end hr]
  rw [hslots] at hr hr'
  split_ifs at hr hr' with hi hj hj
  · exact absurd (hi.trans hj.symm) hne
  · exact hapart r j r' hr hj hr'
  · exact (hapart r' i r hr' hi hr).symm
  · exact h.apart hne hr hr'

lemma Lawful.setRecord_part (h : mappings.Lawful) (hslot : mappings.slot index = some record)
  (hpart : ∀ r, piece = some r → record.start.asU64 ≤ r.start.asU64 ∧ r.stop ≤ record.stop) :
  (mappings.setRecord index piece).Lawful := by
  have hbase := h.base_le hslot
  have hend := h.le_end hslot
  refine h.setRecord (lt_of_slot hslot) (fun r hr => ?_) fun r j r' hr hj hr' => ?_
  · have hle := hpart r hr
    omega
  · have hle := hpart r hr
    have hapart := h.apart hj hr' hslot
    omega

lemma nextEmptyRecordIndex_eq_some (h : mappings.nextEmptyRecordIndex = some index) :
  index < maxUserMappings ∧ mappings.slot index = none := by
  obtain ⟨hlt, hnone, -⟩ := findIdx?_eq_some_iff_getElem.1 h
  refine ⟨by rwa [← mappings.length_records], ?_⟩
  rw [slot, getElem?_eq_getElem hlt, Option.isNone_iff_eq_none.1 hnone]
  rfl

lemma exists_nextEmptyRecordIndex (h : mappings.activeRecords < maxUserMappings) :
  ∃ index, mappings.nextEmptyRecordIndex = some index := by
  refine Option.ne_none_iff_exists'.1 fun hnone => ?_
  rw [nextEmptyRecordIndex, findIdx?_eq_none_iff] at hnone
  have hall : mappings.activeRecords = mappings.records.length :=
    countP_eq_length.2 fun record hrec => by
      rw [← Option.not_isNone, hnone record hrec]
      rfl
  rw [hall, mappings.length_records] at h
  exact Nat.lt_irrefl _ h

lemma activeRecords_setRecord (mappings : UserMappings) (h : index < maxUserMappings)
  (record : Option UserMapping) :
  (mappings.setRecord index record).activeRecords + (mappings.slot index).isSome.toNat =
    mappings.activeRecords + record.isSome.toNat := by
  have hlen : index < mappings.records.length := by rwa [mappings.length_records]
  have hslot : mappings.records[index] = mappings.slot index := by
    rw [slot, getElem?_eq_getElem hlen]
    rfl
  have hset := countP_set (p := Option.isSome) (a := record) hlen
  rw [hslot] at hset
  rw [activeRecords, setRecord, hset, ← activeRecords]
  cases hold : mappings.slot index with
  | none => cases record <;> rfl
  | some r =>
    have hpos : 0 < mappings.activeRecords :=
      countP_pos_iff.2 ⟨some r, mem_records_iff.2 ⟨index, hold⟩, rfl⟩
    have hsub : mappings.activeRecords - 1 + 1 = mappings.activeRecords := by omega
    cases record with
    | none => exact hsub
    | some _ => exact congrArg (· + 1) hsub

/-! ### Taking pages out of a record -/

/-- The pages from `start` to `stop` are taken out of the records. -/
structure Trimmed (mappings : UserMappings) (start stop : ℕ) (mappings' : UserMappings) : Prop where
  lawful : mappings'.Lawful
  holds_iff : ∀ {page source}, mappings'.Holds page source ↔
    mappings.Holds page source ∧ ¬ (start ≤ page ∧ page < stop)
  nextStart_eq : mappings'.nextStart = mappings.nextStart

section Trim
variable {start stop : ℕ} (h : mappings.Lawful) (hslot : mappings.slot index = some record)
  (hst : record.start.asU64 ≤ start) (hstop : stop ≤ record.stop)
include h hslot hst hstop in
lemma trimmed_iff {pieces : Prop}
  (hpieces : pieces ↔ (record.Covers page ∧ ¬ (start ≤ page ∧ page < stop)) ∧
    record.source = source) :
  pieces ∨ mappings.Holds page source ∧ ¬ record.Covers page ↔
    mappings.Holds page source ∧ ¬ (start ≤ page ∧ page < stop) := by
  rw [hpieces]
  by_cases hpage : record.Covers page
  · rw [h.holds_iff_of_covers hslot hpage]
    simp only [hpage, not_true_eq_false, and_false, or_false, true_and]
    exact and_comm
  · have hout : ¬ (start ≤ page ∧ page < stop) := fun hin =>
      hpage ⟨Nat.le_trans hst hin.1, Nat.lt_of_lt_of_le hin.2 hstop⟩
    simp only [hpage, hout, false_and, not_false_eq_true, and_true, false_or]

include h hslot hst hstop in
lemma trimmed_of_piece
    (hpart : ∀ r, piece = some r → record.start.asU64 ≤ r.start.asU64 ∧ r.stop ≤ record.stop)
    (hpiece : ∀ page source,
        (∃ r, piece = some r ∧ r.Covers page ∧ r.source = source) ↔
          (record.Covers page ∧ ¬ (start ≤ page ∧ page < stop)) ∧ record.source = source) :
    mappings.Trimmed start stop (mappings.setRecord index piece) := by
  refine ⟨h.setRecord_part hslot hpart, fun {page source} => ?_, rfl⟩
  rw [h.holds_setRecord hslot]
  exact trimmed_iff h hslot hst hstop (hpiece page source)

include h hslot hst hstop in
lemma trimmed_of_split (hlt : start < stop) (hj : j < maxUserMappings)
    (hempty : mappings.slot j = none) {left right : UserMapping}
    (hleft : left.start = record.start ∧ left.stop = start ∧ left.source = record.source)
    (hright : right.start.asU64 = stop ∧ right.stop = record.stop ∧ right.source = record.source) :
    mappings.Trimmed start stop
      ((mappings.setRecord index (some left)).setRecord j (some right)) := by
  obtain ⟨hleftStart, hleftStop, hleftSource⟩ := hleft
  obtain ⟨hrightStart, hrightStop, hrightSource⟩ := hright
  have hidx := lt_of_slot hslot
  have hempty' : (mappings.setRecord index (some left)).slot j = none := by
    rw [mappings.slot_setRecord hidx, if_neg, hempty]
    rintro rfl
    rw [hslot] at hempty
    cases hempty
  have hlaw : (mappings.setRecord index (some left)).Lawful := h.setRecord_part hslot fun r hr => by
      cases hr
      rw [hleftStart]
      omega
  refine ⟨hlaw.setRecord hj (fun r hr => ?_) fun r i r' hr hi hr' => ?_,
    fun {page source} => ?_, rfl⟩
  · cases hr
    have hbase := h.base_le hslot
    have hend := h.le_end hslot
    omega
  · cases hr
    rw [mappings.slot_setRecord hidx] at hr'
    split_ifs at hr' with hii
    · cases hr'
      omega
    · have hapart := h.apart hii hr' hslot
      omega
  rw [holds_fill hj hempty', h.holds_setRecord hslot, ← or_assoc]
  refine trimmed_iff h hslot hst hstop ?_
  simp only [Option.some.injEq, exists_eq_left', UserMapping.Covers, hleftStart, hleftStop,
    hleftSource, hrightStart, hrightStop, hrightSource, ← or_and_right]
  refine and_congr_left fun _ => ?_
  omega

end Trim

/-- The pages leave their record; one cut in the middle needs an empty slot for its right part. -/
lemma applyRecordUnmap_ok (h : mappings.Lawful) (hslot : mappings.slot index = some record)
    {rightStart : UserPageStart} (hmod : start % pageSize = 0) (hst : record.start.asU64 ≤ start)
    (hlt : start < rightStart.asU64) (hstop : rightStart.asU64 ≤ record.stop)
    (hsplit : record.start.asU64 < start →
      rightStart.asU64 < record.stop →
      ∃ j, split = some j ∧ j < maxUserMappings ∧ mappings.slot j = none) :
    ∃ mappings',
      mappings.applyRecordUnmap index split record ((start - record.start.asU64) / pageSize)
        ((record.stop - rightStart.asU64) / pageSize) rightStart =
        .ok mappings' ∧
      mappings.Trimmed start rightStart.asU64 mappings' ∧
      (∀ j,
        j ≠ index →
        mappings'.slot j = mappings.slot j ∨
        mappings.slot j = none ∧
        rightStart.asU64 < record.stop ∧
        ∃ r, mappings'.slot j = some r ∧ rightStart.asU64 ≤ r.start.asU64) ∧
      mappings'.activeRecords + 1 =
        mappings.activeRecords + (decide (record.start.asU64 < start)).toNat +
          (decide (rightStart.asU64 < record.stop)).toNat := by
  have hbound : record.stop ≤ userSpaceEnd := Nat.le_trans (h.le_end hslot) (by decide)
  have hmodStart := record.start.asU64_mod
  have hmodStop := record.stop_mod
  have hmodRight := rightStart.asU64_mod
  have hidx := lt_of_slot hslot
  have hleft := pages_eq_zero_iff hmodStart hmod hst
  have hright := pages_eq_zero_iff hmodRight hmodStop hstop
  have hother : ∀ piece j, j ≠ index →
    (mappings.setRecord index piece).slot j = mappings.slot j := fun piece j hj => by
    rw [mappings.slot_setRecord hidx, if_neg hj]
  have hact : ∀ piece, (mappings.setRecord index piece).activeRecords + 1 =
    mappings.activeRecords + piece.isSome.toNat := fun piece => by
    have hcnt := mappings.activeRecords_setRecord hidx piece
    rwa [hslot] at hcnt
  rcases Nat.eq_or_lt_of_le hst with hl | hl <;> rcases Nat.eq_or_lt_of_le hstop with hr | hr
  · -- the whole record
    refine ⟨mappings.setRecord index none, ?_, trimmed_of_piece h hslot hst hstop
      (fun r hpiece => by cases hpiece) fun page source => ?_, fun j hj => .inl (hother _ j hj), ?_⟩
    · rw [applyRecordUnmap, if_pos (hleft.2 hl), if_pos (hright.2 hr)]
      rfl
    · refine iff_of_false (by simp) fun hpage => ?_
      obtain ⟨⟨hcov, _⟩, -⟩ := hpage
      rw [UserMapping.Covers] at hcov
      omega
    · rw [hl, hr]
      simpa using hact none
  · -- the left end
    obtain ⟨count, hcnt, hlen⟩ := exists_mappingPageCount hmodRight hmodStop hr hbound
    have hpieceStop : UserMapping.stop ⟨rightStart, count, record.source⟩ = record.stop := hlen
    refine ⟨mappings.setRecord index (some ⟨rightStart, count, record.source⟩), ?_,
      trimmed_of_piece h hslot hst hstop (fun r hpiece => ?_) fun page source => ?_,
      fun j hj => .inl (hother _ j hj), ?_⟩
    · rw [applyRecordUnmap,
        if_pos (hleft.2 hl), if_neg fun hzero => Nat.ne_of_lt hr (hright.1 hzero), hcnt]
      rfl
    · cases hpiece
      exact ⟨Nat.le_trans hst (Nat.le_of_lt hlt), Nat.le_of_eq hpieceStop⟩
    · simp only [Option.some.injEq, exists_eq_left', UserMapping.Covers, hpieceStop]
      refine and_congr_left fun _ => ?_
      omega
    · rw [hl]
      simpa [hr] using hact (some ⟨rightStart, count, record.source⟩)
  · -- the right end
    obtain ⟨count, hcnt, hlen⟩ := exists_mappingPageCount hmodStart hmod hl (by omega)
    have hpieceStop : UserMapping.stop ⟨record.start, count, record.source⟩ = start := hlen
    refine ⟨mappings.setRecord index (some ⟨record.start, count, record.source⟩), ?_,
      trimmed_of_piece h hslot hst hstop (fun r hpiece => ?_) fun page source => ?_,
      fun j hj => .inl (hother _ j hj), ?_⟩
    · rw [applyRecordUnmap,
        if_neg fun hzero => Nat.ne_of_lt hl (hleft.1 hzero), if_pos (hright.2 hr), hcnt]
      rfl
    · cases hpiece
      exact ⟨Nat.le_refl _, by omega⟩
    · simp only [Option.some.injEq, exists_eq_left', UserMapping.Covers, hpieceStop]
      refine and_congr_left fun _ => ?_
      omega
    · rw [hr]
      simpa [hl] using hact (some ⟨record.start, count, record.source⟩)
  -- the middle
  obtain ⟨leftCount, hleftCount, hleftLen⟩ :=
    exists_mappingPageCount hmodStart hmod hl (by omega)
  obtain ⟨rightCount, hrightCount, hrightLen⟩ :=
    exists_mappingPageCount hmodRight hmodStop hr hbound
  obtain ⟨j, rfl, hj, hempty⟩ := hsplit hl hr
  have hji : j ≠ index := by
    rintro rfl
    rw [hslot] at hempty
    cases hempty
  refine ⟨(mappings.setRecord index (some ⟨record.start, leftCount, record.source⟩)).setRecord
    j (some ⟨rightStart, rightCount, record.source⟩), ?_, trimmed_of_split h hslot
    hst hstop hlt hj hempty ⟨rfl, hleftLen, rfl⟩ ⟨rfl, hrightLen, rfl⟩, fun i hi => ?_, ?_⟩
  · rw [applyRecordUnmap, if_neg fun hzero => Nat.ne_of_lt hl (hleft.1 hzero),
      if_neg fun hzero => Nat.ne_of_lt hr (hright.1 hzero), hleftCount, hrightCount]
    rfl
  · rw [slot_setRecord _ hj]
    split_ifs with hij
    · exact .inr ⟨hij ▸ hempty, hr, _, rfl, Nat.le_refl _⟩
    · exact .inl (hother _ i hi)
  have hfirst := hact (some ⟨record.start, leftCount, record.source⟩)
  have hsecond := (mappings.setRecord index
    (some ⟨record.start, leftCount, record.source⟩)).activeRecords_setRecord hj
    (some ⟨rightStart, rightCount, record.source⟩)
  rw [hother _ j hji, hempty] at hsecond
  simp only [Option.isSome_none, Option.isSome_some, Bool.toNat_false, Bool.toNat_true,
    Nat.add_zero] at hfirst hsecond
  simp only [hl, hr, decide_true, Bool.toNat_true]
  omega

/-! ### Searching the records -/

variable {range : UserMappingRange}

lemma overlaps_iff (range : UserMappingRange) {recordRange : UserMappingRange}
  (hst : recordRange.start = record.start)
  (hstop : recordRange.endExclusive.asU64 = record.stop) :
  range.overlaps recordRange = true ↔ record.Meets range := by
  rw [UserMappingRange.overlaps, UserMapping.Meets, hst, hstop, Bool.and_eq_true,
    decide_eq_true_eq, decide_eq_true_eq]

lemma foldl_latest_some (ends : List UserPageStart) (best : UserPageStart) :
  ∃ last ∈ best :: ends, ends.foldl latest (some best) = some last := by
  induction ends generalizing best with
  | nil => exact ⟨best, mem_cons_self, rfl⟩
  | cons e ends ih =>
    rw [foldl_cons, latest]
    split_ifs
    · obtain ⟨last, hmem, hlast⟩ := ih e
      exact ⟨last, mem_cons_of_mem _ hmem, hlast⟩
    obtain ⟨last, hmem, hlast⟩ := ih best
    refine ⟨last, ?_, hlast⟩
    rcases mem_cons.1 hmem with rfl | hmem
    exacts [mem_cons_self, mem_cons_of_mem _ (mem_cons_of_mem _ hmem)]

lemma Lawful.mem_endsOfMeeting (h : mappings.Lawful) :
    e ∈ mappings.endsOfMeeting range ↔
      ∃ index record,
        mappings.slot index = some record ∧ record.Meets range ∧ e.asU64 = record.stop := by
  rw [endsOfMeeting, mem_filterMap]
  constructor
  · rintro ⟨_, hmem, hbind⟩
    obtain ⟨recordRange, hrec, he⟩ := Option.bind_eq_some_iff.1 hbind
    obtain ⟨record, rfl, hrg⟩ := Option.bind_eq_some_iff.1 hrec
    obtain ⟨index, hslot⟩ := mem_records_iff.1 hmem
    obtain ⟨_, hrg', hst, hstop⟩ := h.exists_range hslot
    obtain rfl := Option.some.inj (hrg.symm.trans hrg')
    split_ifs at he with hover
    obtain rfl := Option.some.inj he
    exact ⟨index, record, hslot, (overlaps_iff range hst hstop).1 hover, hstop⟩
  rintro ⟨index, record, hslot, hmeet, he⟩
  obtain ⟨_, hrg, hst, hstop⟩ := h.exists_range hslot
  refine ⟨some record, mem_records_iff.2 ⟨index, hslot⟩, ?_⟩
  rw [Option.bind_some, hrg, Option.bind_some, if_pos
    ((overlaps_iff range hst hstop).2 hmeet), UserPageStart.eq_of_asU64 (hstop.trans he.symm)]

lemma Lawful.overlappingRecordEnd_eq_none (h : mappings.Lawful)
  (hnone : mappings.overlappingRecordEnd range = none) {index : ℕ} {record : UserMapping}
  (hslot : mappings.slot index = some record) : ¬ record.Meets range := by
  intro hmeet
  obtain ⟨_, -, -, hstop⟩ := h.exists_range hslot
  have hmem := h.mem_endsOfMeeting.2 ⟨index, record, hslot, hmeet, hstop⟩
  rw [overlappingRecordEnd] at hnone
  cases hends : mappings.endsOfMeeting range with
  | nil =>
    rw [hends] at hmem
    cases hmem
  | cons e ends =>
    obtain ⟨_, -, hlast⟩ := foldl_latest_some ends e
    rw [hends, foldl_cons, latest, hlast] at hnone
    cases hnone

lemma Lawful.overlappingRecordEnd_eq_some (h : mappings.Lawful)
  (hlast : mappings.overlappingRecordEnd range = some last) : ∃ index record,
  mappings.slot index = some record ∧ record.Meets range ∧ last.asU64 = record.stop := by
  rw [overlappingRecordEnd] at hlast
  refine h.mem_endsOfMeeting.1 ?_
  cases hends : mappings.endsOfMeeting range with
  | nil =>
    rw [hends] at hlast
    cases hlast
  | cons e ends =>
    obtain ⟨_, hmem, hlast'⟩ := foldl_latest_some ends e
    rw [hends, foldl_cons, latest, hlast'] at hlast
    obtain rfl := Option.some.inj hlast
    exact hmem

lemma Lawful.findContainingRecordIndex_eq_some (h : mappings.Lawful)
  (hidx : mappings.findContainingRecordIndex range = some index) :
  ∃ record, mappings.slot index = some record ∧
    record.start.asU64 ≤ range.start.asU64 ∧ range.endExclusive.asU64 ≤ record.stop := by
  obtain ⟨hlt, hfound, -⟩ := findIdx?_eq_some_iff_getElem.1 hidx
  cases hrec : mappings.records[index] with
  | none => simp [hrec] at hfound
  | some record =>
    have hslot : mappings.slot index = some record :=
      slot_eq_some.2 (by rw [getElem?_eq_getElem hlt, hrec])
    obtain ⟨_, hrg, hst, hstop⟩ := h.exists_range hslot
    simp only [hrec, Option.bind_some, hrg, UserMappingRange.contains, Bool.and_eq_true,
      decide_eq_true_eq] at hfound
    rw [hst, hstop] at hfound
    exact ⟨record, hslot, hfound⟩

lemma nextAvailableStartLoop_eq_some {count : PageCount} {turns : ℕ}
  (hst : mappings.nextAvailableStartLoop count.byteLen turns candidate = some start) :
  ∃ range, UserMappingRange.new start count = some range ∧
    mappings.overlappingRecordEnd range = none := by
  induction turns generalizing candidate with
  | zero => cases hst
  | succ _ ih =>
    rw [nextAvailableStartLoop] at hst
    obtain ⟨range, hrg, hst⟩ := Option.bind_eq_some_iff.1 hst
    split at hst
    next hnone =>
      cases hst
      exact ⟨range, UserMappingRange.fromByteLen_eq_some.1 hrg, hnone⟩
    next => exact ih hst

lemma startAddressForPlacement_ok {placement : UserMappingPlacement} {count : PageCount}
    {start : UserPageStart}
    (hok : mappings.startAddressForPlacement placement count.byteLen = .ok start)
    (hrg : UserMappingRange.new start count = some range)
    (hplc : ∀ s, placement ≠ .fixedReplace s) : mappings.overlappingRecordEnd range = none := by
  cases placement with
  | any =>
    rw [startAddressForPlacement] at hok
    split at hok <;> cases hok
    next hnext =>
      obtain ⟨range', hrg', _⟩ := nextAvailableStartLoop_eq_some hnext
      rwa [Option.some.inj (hrg.symm.trans hrg')]
  | fixedReplace s => exact absurd rfl (hplc s)
  | fixedNoReplace s =>
    rw [startAddressForPlacement] at hok
    cases hfixed : fixedStartAddress s count.byteLen with
    | error e => rw [hfixed] at hok; cases hok
    | ok _ =>
      simp only [hfixed, bind, Except.bind] at hok
      split at hok
      · cases hok
      next _ hrg' =>
        split_ifs at hok with hsome
        cases hok
        rw [UserMappingRange.fromByteLen_eq_some, hrg] at hrg'
        rw [Option.some.inj hrg']
        exact Option.not_isSome_iff_eq_none.1 hsome

/-! ### Room for a replacement -/

/-- The pieces that a replacement leaves of the record in a slot it meets. -/
def piecesLeft (range : UserMappingRange) : Option UserMapping → ℕ
  | none => 0
  | some record =>
    if record.Meets range then
      (decide (record.start.asU64 < range.start.asU64)).toNat +
        (decide (range.endExclusive.asU64 < record.stop)).toNat
    else 0

/-- A slot counts when its record meets the range. -/
def slotsMet (range : UserMappingRange) : Option UserMapping → ℕ
  | none => 0
  | some record => if record.Meets range then 1 else 0

lemma countReplacedRecord_eq (range : UserMappingRange) (hrg : record.range = some recordRange)
    (hst : recordRange.start = record.start)
    (hstop : recordRange.endExclusive.asU64 = record.stop) {count : ℕ} (hcnt : 0 < count) :
    ∃ count',
      countReplacedRecord range count record = .ok count' ∧
      count' + slotsMet range (some record) = count + piecesLeft range (some record) ∧
      count ≤ count' + 1 := by
  have hover := overlaps_iff range hst hstop
  simp only [countReplacedRecord, hrg, hst, hstop, slotsMet, piecesLeft]
  by_cases hmeet : record.Meets range
  · rw [hover.2 hmeet]
    simp only [Bool.not_true, Bool.false_eq_true, if_false, if_pos hmeet]
    refine ⟨_, rfl, ?_, by omega⟩
    split_ifs with hl hr hr <;> simp [hl, hr] <;> omega
  · rw [Bool.eq_false_iff.2 fun htrue => hmeet (hover.1 htrue)]
    simp only [Bool.not_false, if_true, if_neg hmeet]
    exact ⟨count, rfl, rfl, by omega⟩

lemma foldlM_countReplacedRecord (range : UserMappingRange) {records : List UserMapping}
  (hranges : ∀ record ∈ records, ∃ recordRange, record.range = some recordRange ∧
    recordRange.start = record.start ∧ recordRange.endExclusive.asU64 = record.stop) {count : ℕ}
  (hcnt : records.length ≤ count) :
  ∃ count', records.foldlM (countReplacedRecord range) count = .ok count' ∧
    count' + (records.map fun record => slotsMet range (some record)).sum =
      count + (records.map fun record => piecesLeft range (some record)).sum := by
  induction records generalizing count with
  | nil => exact ⟨count, rfl, rfl⟩
  | cons _ records ih =>
    obtain ⟨⟨_, hrg, hst, hstop⟩, hranges⟩ := forall_mem_cons.1 hranges
    rw [length_cons] at hcnt
    have hpos : 0 < count := by omega
    obtain ⟨count1, hfirst, _, _⟩ := countReplacedRecord_eq range hrg hst hstop hpos
    have hcnt1 : records.length ≤ count1 := by omega
    obtain ⟨count', hrest, _⟩ := ih hranges hcnt1
    refine ⟨count', ?_, ?_⟩
    · rw [foldlM_cons, hfirst]
      exact hrest
    · rw [map_cons, map_cons, sum_cons, sum_cons]
      omega

/-- The slots in a list of indices leave room: after their replacement a slot is empty. -/
def HasSpare (mappings : UserMappings) (range : UserMappingRange) (indices : List ℕ) : Prop :=
  mappings.activeRecords + (indices.map fun j => piecesLeft range (mappings.slot j)).sum <
    maxUserMappings + (indices.map fun j => slotsMet range (mappings.slot j)).sum

lemma sum_slots (mappings : UserMappings) {weight : Option UserMapping → ℕ}
  (hnone : weight none = 0) :
  ((List.range maxUserMappings).map fun j => weight (mappings.slot j)).sum =
    ((mappings.records.filterMap id).map fun record => weight (some record)).sum := by
  have hrecs : (List.range maxUserMappings).map mappings.slot = mappings.records := by
    refine List.ext_getElem (by simp [mappings.length_records]) fun j h1 h2 => ?_
    rw [List.getElem_map, List.getElem_range, slot, List.getElem?_eq_getElem h2]
    rfl
  have hfilter : ∀ records : List (Option UserMapping), (records.map weight).sum =
    ((records.filterMap id).map fun record => weight (some record)).sum := by
    intro records
    induction records with
    | nil => rfl
    | cons record _ ih =>
      cases record with
      | none => simpa [hnone] using ih
      | some _ => simpa using ih
  rw [← hfilter, ← hrecs, List.map_map]
  rfl

lemma Lawful.ensureReplaceRecordCapacity_ok (h : mappings.Lawful) :
  mappings.ensureReplaceRecordCapacity range = .ok () ↔
    mappings.HasSpare range (List.range maxUserMappings) := by
  have hact : (mappings.records.filterMap id).length = mappings.activeRecords := by
    rw [length_filterMap_eq_countP]
    rfl
  have hranges : ∀ record ∈ mappings.records.filterMap id, ∃ recordRange,
    record.range = some recordRange ∧ recordRange.start = record.start ∧
      recordRange.endExclusive.asU64 = record.stop := by
    intro _ hrec
    obtain ⟨_, hmem, rfl⟩ := mem_filterMap.1 hrec
    obtain ⟨_, hslot⟩ := mem_records_iff.1 hmem
    exact h.exists_range hslot
  obtain ⟨_, hcnt, _⟩ := foldlM_countReplacedRecord range hranges (Nat.le_of_eq hact)
  rw [HasSpare, sum_slots mappings rfl, sum_slots mappings rfl, ensureReplaceRecordCapacity, hcnt]
  simp only [bind, Except.bind]
  split_ifs with hlt
  · exact iff_of_true rfl (by omega)
  · exact iff_of_false (by simp) (by omega)

end UserMappings
end ManaOS
